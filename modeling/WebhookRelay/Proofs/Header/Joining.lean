import Mathlib.Data.List.Basic
import Mathlib.Data.List.Induction
import WebhookRelay.Header
import WebhookRelay.Proofs.Text.LowerCase

/-!
# Joined headers

The headers of a response are read one by one, and each is written to what has been joined so far.
What comes out can be said at once: every name in lower case at the place where it first came, with
all its values.

- `Headers.names`, `Headers.values`: the names that come, and the values of one of them.
- `Headers.joined_eq`: joining gives each name with all its values.
- `Headers.passThrough_eq`: so do the headers that are sent back.
- `Headers.isLatin_passThrough`: they can be written if those that came could be read from bytes.
-/

namespace WebhookRelay

namespace Headers

/-- The names of headers in lower case, each once, in the order in which they first come. -/
def names (hs : Headers) : List String :=
  (hs.map fun h => Text.lower h.1).eraseDups

/-- The values of the headers of a name, which is given in lower case. -/
def values (hs : Headers) (name : String) : List String :=
  (hs.filter fun h => Text.lower h.1 == name).map Prod.snd

variable (hs : Headers) (h : String × String) (name : String)

/-! ## One more header -/

/-- One more header brings its value to its name. -/
theorem values_append_singleton :
    values (hs ++ [h]) name = if name = Text.lower h.1 then values hs name ++ [h.2]
      else values hs name := by
  unfold values
  rw [List.filter_append, List.map_append, List.filter_singleton]
  by_cases hname : name = Text.lower h.1
  · rw [if_pos hname, beq_iff_eq.mpr hname.symm]
    rfl
  · rw [if_neg hname, beq_eq_false_iff_ne.mpr fun heq => hname heq.symm]
    exact List.append_nil _

/-- A name that has not come has no values. -/
theorem values_eq_nil_iff : values hs name = [] ↔ name ∉ names hs := by
  unfold values names
  rw [List.map_eq_nil_iff, List.filter_eq_nil_iff, List.mem_eraseDups, List.mem_map]
  constructor
  · rintro hnone ⟨h, hmem, hname⟩
    exact hnone h hmem (beq_iff_eq.mpr hname)
  · exact fun hnone h hmem hname => hnone ⟨h, hmem, beq_iff_eq.mp hname⟩

theorem joined_append_singleton : joined (hs ++ [h]) = join (joined hs) h := by
  unfold joined
  rw [List.foldl_append]
  rfl

/-! ## All headers -/

/-- The value of a name after one more header of this name. -/
def joinedValue (hs : Headers) (h : String × String) : String :=
  match hs.lookup (Text.lower h.1) with
  | some v => v ++ ", " ++ h.2
  | none => h.2

/-- Headers are joined by writing an entry for each of them. -/
theorem joined_eq_foldl :
    joined hs = hs.foldl (fun d h => Dictionary.put d (Text.lower h.1) (joinedValue d h)) [] := rfl

/-- The names of joined headers are those that come. -/
theorem keys_joined : (joined hs).map Prod.fst = names hs := by
  rw [joined_eq_foldl, Dictionary.keys_foldl_put_nil, names]

/-- Each of them comes once. -/
theorem nodup_keys_joined : ((joined hs).map Prod.fst).Nodup := by
  rw [joined_eq_foldl]
  exact Dictionary.nodup_keys_foldl_put _ joinedValue hs List.nodup_nil

/-- A name reads as all its values, if it has come. -/
theorem lookup_joined :
    (joined hs).lookup name =
      if values hs name = [] then none else some (", ".intercalate (values hs name)) := by
  induction hs using List.reverseRecOn with
  | nil => rfl
  | append_singleton hs h ih =>
    rw [joined_append_singleton, join, Dictionary.lookup_put, values_append_singleton]
    by_cases hname : name = Text.lower h.1
    · -- The value goes after those that have come before, if there are any.
      subst hname
      rw [if_pos (beq_self_eq_true _), if_pos rfl, ih, if_neg (List.append_ne_nil_of_right_ne_nil _
        (List.cons_ne_nil _ _))]
      by_cases hvalues : values hs (Text.lower h.1) = []
      · rw [if_pos hvalues, hvalues, List.nil_append, String.intercalate_singleton]
      · rw [if_neg hvalues, String.intercalate_append_of_ne_nil hvalues (List.cons_ne_nil _ _),
          String.intercalate_singleton]
    · rw [if_neg fun heq => hname (beq_iff_eq.mp heq), if_neg hname, ih]

/-- Joined headers are the names that come, each with all its values. -/
theorem joined_eq : joined hs = (names hs).map fun n => (n, ", ".intercalate (values hs n)) := by
  rw [← keys_joined]
  refine Dictionary.eq_map_of_lookup (nodup_keys_joined hs) fun n hn => ?_
  rw [lookup_joined, if_neg]
  rw [values_eq_nil_iff, ← keys_joined, not_not]
  exact hn

/-- The headers that are sent back are the names that come, except for those about framing, each
with all its values. -/
theorem passThrough_eq :
    passThrough hs = ((names hs).filter (!hopByHop.contains ·)).map fun n =>
      (n, ", ".intercalate (values hs n)) := by
  rw [passThrough, joined_eq, List.filter_map]
  rfl

/-! ## Characters -/

/-- Texts that are joined by a comma have their own characters and those after it. -/
theorem forall_mem_intercalate {p : Char → Prop} {separator : String} {parts : List String}
    (hseparator : ∀ c ∈ separator.toList, p c) (hparts : ∀ s ∈ parts, ∀ c ∈ s.toList, p c) :
    ∀ c ∈ (separator.intercalate parts).toList, p c := by
  induction parts with
  | nil => simp
  | cons s rest ih =>
    have hrest := ih fun t ht => hparts t (List.mem_cons_of_mem s ht)
    have hs := hparts s List.mem_cons_self
    cases rest with
    | nil => simpa using hs
    | cons t rest =>
      rw [String.intercalate_cons_cons, String.toList_append, String.toList_append]
      intro c hc
      obtain hc | hc := List.mem_append.mp hc
      · obtain hc | hc := List.mem_append.mp hc
        · exact hs c hc
        · exact hseparator c hc
      · exact hrest c hc

/-- If all headers are in the first 256 characters, so are those that are sent back. -/
theorem isLatin_passThrough {hs : Headers} (hlatin : hs.isLatin = true) :
    (passThrough hs).isLatin = true := by
  have hall : ∀ h ∈ hs,
      (∀ c ∈ h.1.toList, c.toNat < 0x100) ∧ ∀ c ∈ h.2.toList, c.toNat < 0x100 := by
    simpa [isLatin] using hlatin
  have hnames : ∀ n ∈ names hs, ∀ c ∈ n.toList, c.toNat < 0x100 := by
    intro n hn
    obtain ⟨h, hmem, rfl⟩ := List.mem_map.mp (List.mem_eraseDups.mp hn)
    exact Text.lower_latin (hall h hmem).1
  have hvalues : ∀ n, ∀ v ∈ values hs n, ∀ c ∈ v.toList, c.toNat < 0x100 := by
    intro n v hv
    obtain ⟨h, hmem, rfl⟩ := List.mem_map.mp hv
    exact (hall h (List.mem_filter.mp hmem).1).2
  rw [passThrough_eq]
  refine List.all_eq_true.mpr fun entry hentry => ?_
  obtain ⟨n, hn, rfl⟩ := List.mem_map.mp hentry
  have hname := hnames n (List.mem_filter.mp hn).1
  have hseparator : ∀ c ∈ ", ".toList, c.toNat < 0x100 := by
    intro c hc
    obtain rfl | rfl : c = ',' ∨ c = ' ' := by simpa using hc
    · decide
    · decide
  have hvalue : ∀ c ∈ (", ".intercalate (values hs n)).toList, c.toNat < 0x100 :=
    forall_mem_intercalate hseparator (hvalues n)
  rw [Bool.and_eq_true, List.all_eq_true, List.all_eq_true]
  exact ⟨fun c hc => decide_eq_true (hname c hc), fun c hc => decide_eq_true (hvalue c hc)⟩

end Headers

end WebhookRelay
