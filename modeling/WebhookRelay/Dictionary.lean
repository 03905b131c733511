/-!
# Dictionaries

Entries with distinct keys in the order in which the keys first came. Writing an existing key keeps
its place and replaces its value.

- `Dictionary.put`: write one entry.
- `Dictionary.ofPairs`: write pairs one after another.
- `lookup_put`: a key reads as it was last written.
- `keys_put`, `put_of_not_mem`: a new key comes last.
- `eq_map_of_lookup`: a dictionary is its keys with what they read as.
- `mem_put`, `mem_ofPairs`: there are no entries but those that were written.
- `keys_foldl_put`: keys stand where they first came, however many entries are written.
- `last_of_mem_ofPairs`: in a dictionary of pairs they have their last values.
-/

namespace WebhookRelay

/-- Entries in the order in which their keys first came. -/
abbrev Dictionary (κ υ : Type) := List (κ × υ)

namespace Dictionary

variable {κ υ : Type} [BEq κ]

/-- Write an entry: in place if the key is there, at the end otherwise. -/
def put : Dictionary κ υ → κ → υ → Dictionary κ υ
  | [], k, v => [(k, v)]
  | (k', v') :: rest, k, v => if k == k' then (k', v) :: rest else (k', v') :: put rest k v

/-- Write pairs one after another onto a dictionary. -/
def putAll (d : Dictionary κ υ) (pairs : List (κ × υ)) : Dictionary κ υ :=
  pairs.foldl (fun d p => d.put p.1 p.2) d

/-- The dictionary of a list of pairs: a repeated key keeps its first place and its last value. -/
def ofPairs (pairs : List (κ × υ)) : Dictionary κ υ :=
  putAll [] pairs

theorem putAll_cons (d : Dictionary κ υ) (p : κ × υ) (rest : List (κ × υ)) :
    d.putAll (p :: rest) = (d.put p.1 p.2).putAll rest := rfl

/-- A key reads as it was last written, and other keys read as before. -/
theorem lookup_put [LawfulBEq κ] (d : Dictionary κ υ) (k k' : κ) (v : υ) :
    (d.put k v).lookup k' = if k' == k then some v else d.lookup k' := by
  induction d with
  | nil => cases h : k' == k <;> simp [put, List.lookup_cons, h]
  | cons entry rest ih =>
    obtain ⟨a, b⟩ := entry
    cases hk : k == a with
    | true =>
      obtain rfl : k = a := by simpa using hk
      cases h : k' == k <;> simp [put, List.lookup_cons, h]
    | false =>
      cases ha : k' == a with
      | true =>
        obtain rfl : k' = a := by simpa using ha
        have : (k' == k) = false := by
          rw [beq_eq_false_iff_ne] at hk ⊢
          exact fun h => hk h.symm
        simp [put, hk, this]
      | false => simp [put, List.lookup_cons, hk, ha, ih]

variable [LawfulBEq κ] {x : κ × υ}

/-- A new key is written at the end. -/
theorem put_of_not_mem {d : Dictionary κ υ} {k : κ} (v : υ) (h : k ∉ d.map Prod.fst) :
    d.put k v = d ++ [(k, v)] := by
  induction d with
  | nil => rfl
  | cons entry rest ih =>
    obtain ⟨a, b⟩ := entry
    rw [List.map_cons, List.mem_cons, not_or] at h
    have hk : ¬ (k == a) = true := fun heq => h.1 (beq_iff_eq.mp heq)
    rw [put, if_neg hk, ih h.2, List.cons_append]

/-- A key that is there keeps its place, and a new one comes last. -/
theorem keys_put (d : Dictionary κ υ) (k : κ) (v : υ) :
    (d.put k v).map Prod.fst =
      if k ∈ d.map Prod.fst then d.map Prod.fst else d.map Prod.fst ++ [k] := by
  induction d with
  | nil => rfl
  | cons entry rest ih =>
    obtain ⟨a, b⟩ := entry
    rw [put]
    by_cases hk : (k == a) = true
    · obtain rfl : k = a := beq_iff_eq.mp hk
      rw [if_pos hk, List.map_cons, List.map_cons, if_pos List.mem_cons_self]
    · have hne : k ≠ a := fun heq => hk (beq_iff_eq.mpr heq)
      rw [if_neg hk, List.map_cons, ih, List.map_cons]
      by_cases hmem : k ∈ rest.map Prod.fst
      · rw [if_pos hmem, if_pos (List.mem_cons_of_mem a hmem)]
      · rw [if_neg hmem, if_neg (List.not_mem_cons_of_ne_of_not_mem hne hmem), List.cons_append]

/-- Keys stay distinct. -/
theorem nodup_keys_put {d : Dictionary κ υ} (h : (d.map Prod.fst).Nodup) (k : κ) (v : υ) :
    ((d.put k v).map Prod.fst).Nodup := by
  rw [keys_put]
  split
  case isTrue => exact h
  case isFalse hmem =>
    refine List.nodup_append.mpr ⟨h, List.pairwise_singleton _ k, fun a ha b hb => ?_⟩
    obtain rfl := List.mem_singleton.mp hb
    exact fun heq => hmem (heq ▸ ha)

/-- A dictionary with distinct keys is the list of its keys, each with what it reads as. -/
theorem eq_map_of_lookup {d : Dictionary κ υ} (hd : (d.map Prod.fst).Nodup) {f : κ → υ}
    (hf : ∀ k ∈ d.map Prod.fst, d.lookup k = some (f k)) :
    d = (d.map Prod.fst).map fun k => (k, f k) := by
  induction d with
  | nil => rfl
  | cons entry rest ih =>
    obtain ⟨a, b⟩ := entry
    rw [List.map_cons, List.nodup_cons] at hd
    have hfirst : b = f a := by simpa using hf a List.mem_cons_self
    have hrest : rest = (rest.map Prod.fst).map fun k => (k, f k) := by
      refine ih hd.2 fun k hk => ?_
      have hne : (k == a) = false := beq_eq_false_iff_ne.mpr fun heq => hd.1 (heq ▸ hk)
      simpa [List.lookup_cons, hne] using hf k (List.mem_cons_of_mem a hk)
    rw [List.map_cons, List.map_cons, ← hrest, hfirst]

/-- An entry is the one that was written or one from before. -/
theorem mem_put {d : Dictionary κ υ} {k : κ} {v : υ} (h : x ∈ d.put k v) : x = (k, v) ∨ x ∈ d := by
  induction d with
  | nil => exact .inl (List.mem_singleton.mp h)
  | cons entry rest ih =>
    obtain ⟨a, b⟩ := entry
    rw [put] at h
    by_cases hk : (k == a) = true
    · -- The entry is replaced in its place.
      obtain rfl : k = a := beq_iff_eq.mp hk
      rw [if_pos hk, List.mem_cons] at h
      exact h.imp_right (List.mem_cons_of_mem _)
    · rw [if_neg hk, List.mem_cons] at h
      obtain rfl | h := h
      · exact .inr List.mem_cons_self
      · exact (ih h).imp_right (List.mem_cons_of_mem _)

/-- An entry is one of the pairs that were written or one from before. -/
theorem mem_putAll {pairs : List (κ × υ)} {d : Dictionary κ υ} (h : x ∈ d.putAll pairs) :
    x ∈ d ∨ x ∈ pairs := by
  induction pairs generalizing d with
  | nil => exact .inl h
  | cons p rest ih =>
    obtain h | h := ih h
    · obtain rfl | h := mem_put h
      · exact .inr List.mem_cons_self
      · exact .inl h
    · exact .inr (List.mem_cons_of_mem p h)

/-- Every entry of a dictionary of pairs is one of the pairs. -/
theorem mem_ofPairs {pairs : List (κ × υ)} (h : x ∈ ofPairs pairs) : x ∈ pairs :=
  (mem_putAll h).resolve_left List.not_mem_nil

/-! ## Many entries -/

section

variable {α : Type} (key : α → κ) (value : Dictionary κ υ → α → υ) {d : Dictionary κ υ}
  (items : List α)

/-- Entries that are written one after another bring their keys, each once and in the order in which
they first come, after those that were there before. The values may depend on what is there. -/
theorem keys_foldl_put (d : Dictionary κ υ) :
    (items.foldl (fun d a => d.put (key a) (value d a)) d).map Prod.fst =
      d.map Prod.fst ++ ((items.map key).removeAll (d.map Prod.fst)).eraseDups := by
  induction items generalizing d with
  | nil => exact (List.append_nil _).symm
  | cons a rest ih =>
    rw [List.foldl_cons, ih, keys_put, List.map_cons, List.cons_removeAll]
    by_cases hmem : key a ∈ d.map Prod.fst
    · rw [if_pos hmem, if_neg (by simpa using hmem)]
    · -- The new key stands before the others, which are looked for without it.
      have hrest : (rest.map key).removeAll (d.map Prod.fst ++ [key a]) =
          ((rest.map key).removeAll (d.map Prod.fst)).filter fun k => !k == key a := by
        rw [List.removeAll, List.removeAll, List.filter_filter]
        congr 1
        funext k
        rw [List.elem_eq_contains, List.contains_append, List.contains_cons, List.contains_nil,
          Bool.or_false, Bool.not_or, Bool.and_comm, List.elem_eq_contains]
      rw [if_neg hmem, if_pos (by simpa using hmem), hrest, List.eraseDups_cons, List.append_assoc]
      rfl

/-- If nothing was there before, these are all keys. -/
theorem keys_foldl_put_nil :
    (items.foldl (fun d a => put d (key a) (value d a)) []).map Prod.fst =
      (items.map key).eraseDups := by
  have hall : (items.map key).removeAll [] = items.map key :=
    List.filter_eq_self.mpr fun _ _ => rfl
  rw [keys_foldl_put, List.map_nil, List.nil_append, hall]

/-- Keys stay distinct, however many entries are written. -/
theorem nodup_keys_foldl_put (h : (d.map Prod.fst).Nodup) :
    ((items.foldl (fun d a => d.put (key a) (value d a)) d).map Prod.fst).Nodup := by
  induction items generalizing d with
  | nil => exact h
  | cons a rest ih => exact ih (nodup_keys_put h (key a) (value d a))

end

/-- The keys of a dictionary of pairs. -/
theorem keys_ofPairs (pairs : List (κ × υ)) :
    (ofPairs pairs).map Prod.fst = (pairs.map Prod.fst).eraseDups :=
  keys_foldl_put_nil Prod.fst (fun _ p => p.2) pairs

theorem nodup_keys_ofPairs (pairs : List (κ × υ)) : ((ofPairs pairs).map Prod.fst).Nodup :=
  nodup_keys_foldl_put Prod.fst (fun _ p => p.2) pairs List.nodup_nil

/-- A key reads as it was last written, be it among the pairs or before. -/
theorem lookup_putAll (d : Dictionary κ υ) (pairs : List (κ × υ)) (k : κ) :
    (d.putAll pairs).lookup k = (pairs.reverse ++ d).lookup k := by
  induction pairs generalizing d with
  | nil => rfl
  | cons p rest ih =>
    rw [putAll_cons, ih, List.reverse_cons, List.append_assoc, List.lookup_append,
      List.lookup_append, lookup_put, List.singleton_append, List.lookup_cons]
    cases k == p.1 <;> rfl

/-- What a key reads as is an entry. -/
theorem mem_of_lookup {d : Dictionary κ υ} {k : κ} {v : υ} (h : d.lookup k = some v) :
    (k, v) ∈ d := by
  obtain ⟨before, after, rfl, -⟩ := List.lookup_eq_some_iff.mp h
  exact List.mem_append_right _ List.mem_cons_self

/-- Where keys are distinct, an entry is what its key reads as. -/
theorem lookup_of_mem {d : Dictionary κ υ} (hd : (d.map Prod.fst).Nodup) (h : x ∈ d) :
    d.lookup x.1 = some x.2 := by
  induction d with
  | nil => cases h
  | cons entry rest ih =>
    rw [List.map_cons, List.nodup_cons] at hd
    rw [List.lookup_cons]
    obtain rfl | h := List.mem_cons.mp h
    · rw [beq_self_eq_true]
    · have hne : (x.1 == entry.1) = false :=
        beq_eq_false_iff_ne.mpr fun heq => hd.1 (heq ▸ List.mem_map_of_mem h)
      rw [hne]
      exact ih hd.2 h

/-- Every entry of a dictionary of pairs is the last pair of its key. -/
theorem last_of_mem_ofPairs {pairs : List (κ × υ)} (h : x ∈ ofPairs pairs) :
    ∃ before after, pairs = before ++ x :: after ∧ x.1 ∉ after.map Prod.fst := by
  have hlookup : pairs.reverse.lookup x.1 = some x.2 := by
    rw [← List.append_nil pairs.reverse, ← lookup_putAll]
    exact lookup_of_mem (nodup_keys_ofPairs pairs) h
  obtain ⟨after, before, hpairs, hafter⟩ := List.lookup_eq_some_iff.mp hlookup
  refine ⟨before.reverse, after.reverse, ?_, ?_⟩
  · rw [← pairs.reverse_reverse, hpairs, List.reverse_append, List.reverse_cons, List.append_assoc]
    rfl
  · rw [List.map_reverse, List.mem_reverse, List.mem_map]
    rintro ⟨p, hp, heq⟩
    exact bne_iff_ne.mp (hafter p hp) heq.symm

/-- Pairs with distinct keys are a dictionary as they are. -/
theorem putAll_of_nodup {d : Dictionary κ υ} {pairs : List (κ × υ)}
    (h : ((d ++ pairs).map Prod.fst).Nodup) : d.putAll pairs = d ++ pairs := by
  induction pairs generalizing d with
  | nil => exact (List.append_nil d).symm
  | cons p rest ih =>
    rw [List.append_cons] at h
    have hnew : p.1 ∉ d.map Prod.fst := by
      rw [List.map_append, List.map_append, List.append_assoc] at h
      exact fun hmem =>
        (List.nodup_append.mp h).2.2 p.1 hmem p.1 (List.mem_append_left _ List.mem_cons_self) rfl
    rw [putAll_cons, put_of_not_mem p.2 hnew, ih h]
    exact (List.append_cons ..).symm

end Dictionary

end WebhookRelay
