import WebhookRelay.Header

/-!
# Forwarded headers

What is sent on of the headers of a delivery is a dictionary with the names that are allowed and not
blocked, and the content type comes after them. A name that is repeated stands where it first came
and has the value that came last, so a header can stand before one that came before it.

- `Headers.isBlocked`, `Headers.isAllowed`: which names are sent on, whatever their letter case.
- `Headers.ForwardsOnly`: what may be sent on of some headers, and what must be.
- `Headers.selectForwarded_eq`: the content type comes after the headers of the delivery.
- `Headers.forwardsOnly_selectForwarded`: what is selected is what may and must be sent on.
-/

namespace WebhookRelay

namespace Headers

/-- Is a name blocked, whatever its letter case? -/
def isBlocked (name : String) : Bool :=
  blocked.contains (Text.lower name)

/-- Is a name on the list of allowed names, whatever the letter case of either? -/
def isAllowed (allowed : List String) (name : String) : Bool :=
  (allowed.map Text.lower).contains (Text.lower name)

/-- What may be sent on of the headers that come in, and what must be. -/
structure ForwardsOnly (inbound : Headers) (allowed : List String) (outbound : Headers) : Prop where
  /-- Of all blocked names there is only the content type, once, and it is that of documents. -/
  blocked : outbound.filter (fun h => isBlocked h.1) = [("Content-Type", "application/json")]
  /-- All other headers have come in with allowed names, and each is the last one of its name. -/
  others : ∀ h ∈ outbound, isBlocked h.1 = false → isAllowed allowed h.1 = true ∧
    ∃ before after, inbound = before ++ h :: after ∧ h.1 ∉ after.map Prod.fst
  /-- Their names are all those that have come in, are allowed and are not blocked, each once and in
  the order in which they first came. -/
  names : (outbound.filter fun h => !isBlocked h.1).map Prod.fst =
    ((inbound.map Prod.fst).filter fun n => !isBlocked n && isAllowed allowed n).eraseDups
  /-- So they stand in the order in which they came, if no name was repeated. -/
  inOrder : (inbound.map Prod.fst).Nodup →
    (outbound.filter fun h => !isBlocked h.1).Sublist inbound
  /-- No allowed name is left out unless it is blocked. -/
  complete : ∀ h ∈ inbound, isAllowed allowed h.1 = true → isBlocked h.1 = false →
    h.1 ∈ outbound.map Prod.fst

variable (inbound : Headers) (allowed : List String)

/-- The headers that are sent on of those that come in. -/
def forwarded : Headers :=
  Dictionary.ofPairs (inbound.filter fun h => isForwarded allowed h.1)

theorem isForwarded_eq (name : String) :
    isForwarded allowed name = (!isBlocked name && isAllowed allowed name) := rfl

theorem keys_forwarded : (forwarded inbound allowed).map Prod.fst =
    ((inbound.map Prod.fst).filter fun n => !isBlocked n && isAllowed allowed n).eraseDups := by
  rw [forwarded, Dictionary.keys_ofPairs, List.filter_map]
  rfl

/-- Every header that is sent on is allowed, is not blocked, and is the last one of its name. -/
theorem last_of_mem_forwarded {h : String × String} (hmem : h ∈ forwarded inbound allowed) :
    isForwarded allowed h.1 = true ∧
      ∃ before after, inbound = before ++ h :: after ∧ h.1 ∉ after.map Prod.fst := by
  obtain ⟨before, after, hsplit, hlast⟩ := Dictionary.last_of_mem_ofPairs hmem
  obtain ⟨before', rest, hinbound, -, hrest⟩ := List.filter_eq_append_iff.mp hsplit
  obtain ⟨skipped, after', rfl, -, hforwarded, hafter⟩ := List.filter_eq_cons_iff.mp hrest
  have hwhole : inbound = (before' ++ skipped) ++ h :: after' := by
    rw [hinbound, List.append_assoc]
  refine ⟨hforwarded, before' ++ skipped, after', hwhole, fun hagain => ?_⟩
  -- A later header of the same name would have been selected as well.
  obtain ⟨h', hmem', hname⟩ := List.mem_map.mp hagain
  refine hlast (List.mem_map.mpr ⟨h', ?_, hname⟩)
  rw [← hafter]
  exact List.mem_filter.mpr ⟨hmem', by rw [hname, hforwarded]⟩

theorem isBlocked_of_mem_forwarded {h : String × String} (hmem : h ∈ forwarded inbound allowed) :
    isBlocked h.1 = false := by
  have hforwarded := (last_of_mem_forwarded inbound allowed hmem).1
  rw [isForwarded_eq, Bool.and_eq_true] at hforwarded
  exact Bool.not_eq_true' _ ▸ hforwarded.1

theorem isBlocked_contentType : isBlocked "Content-Type" = true := by decide +kernel

/-- The content type is blocked, so it is new and comes after all that is sent on. -/
theorem selectForwarded_eq : inbound.selectForwarded allowed =
    forwarded inbound allowed ++ [("Content-Type", "application/json")] := by
  refine Dictionary.put_of_not_mem _ fun hmem => ?_
  obtain ⟨h, hmem, hname⟩ := List.mem_map.mp hmem
  have hblocked := isBlocked_of_mem_forwarded inbound allowed hmem
  rw [hname, isBlocked_contentType] at hblocked
  cases hblocked

/-- Of what is selected, the content type is what is blocked. -/
theorem filter_isBlocked_selectForwarded :
    (inbound.selectForwarded allowed).filter (fun h => isBlocked h.1) =
      [("Content-Type", "application/json")] := by
  have hnone : (forwarded inbound allowed).filter (fun h => isBlocked h.1) = [] :=
    List.filter_eq_nil_iff.mpr fun h hmem => by
      rw [isBlocked_of_mem_forwarded inbound allowed hmem]
      exact Bool.false_ne_true
  rw [selectForwarded_eq, List.filter_append, hnone, List.filter_cons, if_pos isBlocked_contentType]
  rfl

/-- The rest is what is sent on of the headers that come in. -/
theorem filter_not_isBlocked_selectForwarded :
    (inbound.selectForwarded allowed).filter (fun h => !isBlocked h.1) =
      forwarded inbound allowed := by
  have hall : (forwarded inbound allowed).filter (fun h => !isBlocked h.1) =
      forwarded inbound allowed :=
    List.filter_eq_self.mpr fun h hmem => by
      rw [isBlocked_of_mem_forwarded inbound allowed hmem]
      rfl
  rw [selectForwarded_eq, List.filter_append, hall, List.filter_cons, isBlocked_contentType]
  exact List.append_nil _

/-- What is selected is what may be sent on, and nothing of that is left out. -/
theorem forwardsOnly_selectForwarded :
    ForwardsOnly inbound allowed (inbound.selectForwarded allowed) where
  blocked := filter_isBlocked_selectForwarded inbound allowed
  others h hmem hblocked := by
    have hmem : h ∈ forwarded inbound allowed := by
      rw [← filter_not_isBlocked_selectForwarded]
      exact List.mem_filter.mpr ⟨hmem, by rw [hblocked]; rfl⟩
    obtain ⟨hforwarded, hlast⟩ := last_of_mem_forwarded inbound allowed hmem
    rw [isForwarded_eq, Bool.and_eq_true] at hforwarded
    exact ⟨hforwarded.2, hlast⟩
  names := by
    rw [filter_not_isBlocked_selectForwarded, keys_forwarded]
  inOrder hnodup := by
    -- Without repeated names the dictionary is the list of what is selected.
    have hselected : ((inbound.filter fun h => isForwarded allowed h.1).map Prod.fst).Nodup :=
      hnodup.sublist (List.filter_sublist.map Prod.fst)
    rw [filter_not_isBlocked_selectForwarded, forwarded, Dictionary.ofPairs,
      Dictionary.putAll_of_nodup hselected]
    exact List.filter_sublist
  complete h hmem hallowed hblocked := by
    have hname : h.1 ∈ (forwarded inbound allowed).map Prod.fst := by
      rw [keys_forwarded, List.mem_eraseDups, List.mem_filter, hallowed, hblocked]
      exact ⟨List.mem_map_of_mem hmem, rfl⟩
    rw [selectForwarded_eq, List.map_append]
    exact List.mem_append_left _ hname

/-- A repeated name can bring a header before one that came before it. -/
theorem not_inOrder_of_repeated :
    ¬ ((selectForwarded [("a", "1"), ("b", "2"), ("a", "3")] ["a", "b"]).filter
      fun h => !isBlocked h.1).Sublist [("a", "1"), ("b", "2"), ("a", "3")] := by
  rw [show (selectForwarded [("a", "1"), ("b", "2"), ("a", "3")] ["a", "b"]).filter
    (fun h => !isBlocked h.1) = [("a", "3"), ("b", "2")] by decide +kernel]
  decide

end Headers

end WebhookRelay
