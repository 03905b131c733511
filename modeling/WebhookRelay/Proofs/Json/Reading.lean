import Mathlib.Logic.Basic
import WebhookRelay.Json.Reader

/-!
# What reading gives

Of repeated keys only one member is kept, so no object that is read has a key twice, at any level;
and no integer that is read has too many digits. The reader keeps that up for everything that it has
put together so far: what it has accepted and what stands in the containers that are still open.

- `Json.WellFormed`: no object in a value has a key twice, and no integer too many digits.
- `Json.WellFormed.hasOverlong_eq_false`: such a value can be written.
- `Json.State.WellFormed`: that is so for everything that the reader holds.
- `Json.State.wellFormed_of_step`, `Json.State.wellFormed_of_run`: it stays so over tokens.
- `Json.wellFormed_of_read`: so it is so for every value that is read.
-/

namespace WebhookRelay.Json

/-- No object in a value has a key twice, and no integer in it has too many digits. -/
inductive WellFormed : Json → Prop
  | null : WellFormed .null
  | bool (b : Bool) : WellFormed (.bool b)
  | int {n : Int} (h : Text.isOverlong n = false) : WellFormed (.int n)
  | float (x : Binary64) : WellFormed (.float x)
  | string (s : String) : WellFormed (.string s)
  | array {items : List Json} (h : ∀ v ∈ items, WellFormed v) : WellFormed (.array items)
  | object {fields : List (String × Json)} (hkeys : (fields.map Prod.fst).Nodup)
      (h : ∀ f ∈ fields, WellFormed f.2) : WellFormed (.object fields)

/-- A member with such a value is put among others, in place of one with its key. -/
theorem WellFormed.put {fields : List (String × Json)} {v : Json} (h : WellFormed (.object fields))
    (hv : WellFormed v) (key : String) : WellFormed (.object (Dictionary.put fields key v)) := by
  cases h with
  | object hkeys h =>
    refine .object (Dictionary.nodup_keys_put hkeys key v) fun f hf => ?_
    obtain rfl | hf := Dictionary.mem_put hf
    · exact hv
    · exact h f hf

/-- The items of an array have no integer with too many digits if none of them has one. -/
theorem hasOverlongItem_eq_false {items : List Json} (h : ∀ v ∈ items, v.hasOverlong = false) :
    hasOverlongItem items = false := by
  induction items with
  | nil => rfl
  | cons v vs ih =>
    obtain ⟨hv, hvs⟩ := List.forall_mem_cons.mp h
    rw [hasOverlongItem, hv, ih hvs, Bool.false_or]

/-- So it is with the members of an object. -/
theorem hasOverlongMember_eq_false {fields : List (String × Json)}
    (h : ∀ f ∈ fields, f.2.hasOverlong = false) : hasOverlongMember fields = false := by
  induction fields with
  | nil => rfl
  | cons f fs ih =>
    obtain ⟨hf, hfs⟩ := List.forall_mem_cons.mp h
    rw [hasOverlongMember, hf, ih hfs, Bool.false_or]

/-- A well-formed value can be written. -/
theorem WellFormed.hasOverlong_eq_false {v : Json} (h : v.WellFormed) : v.hasOverlong = false := by
  induction h with
  | null | bool _ | float _ | string _ => rfl
  | int hshort => exact hshort
  | array _ ih => exact hasOverlongItem_eq_false ih
  | object _ _ ih => exact hasOverlongMember_eq_false ih

/-! ## Tokens -/

/-- A number that is scanned has no members, and may be read if it has not too many digits. -/
theorem wellFormed_of_scanUnsigned? {negative : Bool} {cs : List Char} {v : Json} {n : Nat}
    (h : scanUnsigned? negative cs = some (v, n)) (hshort : v.hasOverlong = false) :
    v.WellFormed := by
  unfold scanUnsigned? at h
  obtain ⟨-, h⟩ | ⟨-, h⟩ := ite_eq_iff.mp h
  · cases h
  obtain ⟨-, h⟩ | ⟨-, h⟩ := ite_eq_iff.mp h
  · cases h
    exact .int hshort
  · cases h
    exact .float _

/-- So is one with a sign. -/
theorem wellFormed_of_scanNumber? {cs : List Char} {v : Json} {n : Nat}
    (h : scanNumber? cs = some (v, n)) (hshort : v.hasOverlong = false) : v.WellFormed := by
  unfold scanNumber? at h
  split at h
  · obtain ⟨⟨w, k⟩, hscan, heq⟩ := Option.map_eq_some_iff.mp h
    cases heq
    exact wellFormed_of_scanUnsigned? hscan hshort
  · exact wellFormed_of_scanUnsigned? h hshort

/-- The constants are truth values, null and numbers. -/
theorem wellFormed_of_scanConstant? {cs : List Char} {v : Json} {n : Nat}
    (h : scanConstant? cs = some (v, n)) : v.WellFormed := by
  obtain ⟨⟨name, w⟩, hfind, heq⟩ := Option.map_eq_some_iff.mp h
  cases heq
  have hmem := List.mem_of_find?_eq_some hfind
  simp only [constants, List.mem_cons, Prod.mk.injEq, List.not_mem_nil, or_false] at hmem
  obtain ⟨-, rfl⟩ | ⟨-, rfl⟩ | ⟨-, rfl⟩ | ⟨-, rfl⟩ | ⟨-, rfl⟩ | ⟨-, rfl⟩ := hmem
  · exact .null
  · exact .bool true
  · exact .bool false
  · exact .float _
  · exact .float _
  · exact .float _

/-- A token that is a value is a constant or a number. -/
theorem wellFormed_of_scanLexeme {p n : Nat} {c : Char} {rest : List Char} {v : Json}
    (h : scanLexeme p c rest = (.scalar v, n)) : v.WellFormed := by
  unfold scanLexeme at h
  split at h
  case h_7 => split at h <;> cases h
  case h_8 =>
    split at h
    case h_1 w k hscan =>
      -- A number with too many digits is a token of its own.
      cases hshort : w.hasOverlong with
      | true =>
        rw [hshort, if_pos rfl] at h
        cases h
      | false =>
        rw [hshort, if_neg Bool.false_ne_true] at h
        cases h
        obtain hconstant | ⟨-, hnumber⟩ := Option.or_eq_some_iff.mp hscan
        · exact wellFormed_of_scanConstant? hconstant
        · exact wellFormed_of_scanNumber? hnumber hshort
    case h_2 => cases h
  all_goals cases h

/-- A token that is a value is well-formed, since it has no parts. -/
def Token.WellFormed (t : Token) : Prop :=
  ∀ v, t.lexeme = .scalar v → v.WellFormed

theorem wellFormed_of_mem_scanTokens {skip p : Nat} {cs : List Char} {t : Token}
    (h : t ∈ scanTokens skip p cs) : t.WellFormed := by
  induction cs generalizing skip p with
  | nil => cases h
  | cons c rest ih =>
    cases skip with
    | succ k => exact ih h
    | zero =>
      rw [scanTokens] at h
      split at h
      · exact ih h
      · obtain rfl | h := List.mem_cons.mp h
        · exact fun v hv => wellFormed_of_scanLexeme (Prod.ext hv rfl)
        · exact ih h

/-! ## Following the reader -/

/-- What stands in an open container is well-formed. -/
def Frame.WellFormed : Frame → Prop
  | .array items => ∀ v ∈ items, v.WellFormed
  | .object fields _ => Json.WellFormed (.object fields)

namespace State

/-- All that the reader holds is well-formed. -/
def WellFormed : State → Prop
  | .value _ stack => ∀ f ∈ stack, f.WellFormed
  | .key _ fields stack => Json.WellFormed (.object fields) ∧ ∀ f ∈ stack, f.WellFormed
  | .colon fields _ stack => Json.WellFormed (.object fields) ∧ ∀ f ∈ stack, f.WellFormed
  | .item items stack => (∀ v ∈ items, v.WellFormed) ∧ ∀ f ∈ stack, f.WellFormed
  | .member fields stack => Json.WellFormed (.object fields) ∧ ∀ f ∈ stack, f.WellFormed
  | .done v => v.WellFormed

/-- A value is accepted into the container around it. -/
theorem wellFormed_accept {v : Json} {stack : List Frame} (hv : v.WellFormed)
    (hstack : ∀ f ∈ stack, f.WellFormed) : (accept v stack).WellFormed := by
  cases stack with
  | nil => exact hv
  | cons frame stack =>
    obtain ⟨hframe, hrest⟩ := List.forall_mem_cons.mp hstack
    cases frame with
    | array items => exact ⟨List.forall_mem_cons.mpr ⟨hv, hframe⟩, hrest⟩
    | object fields key => exact ⟨Json.WellFormed.put hframe hv key, hrest⟩

theorem wellFormed_of_step {s s' : State} {t : Token} (hs : s.WellFormed) (ht : t.WellFormed)
    (h : s.step t = .ok s') : s'.WellFormed := by
  have hempty : Json.WellFormed (.object []) := .object .nil nofun
  have harray : Frame.WellFormed (.array []) := nofun
  unfold step at h
  split at h <;> cases h
  -- Where a value is due, a text, a scalar or an empty array is accepted, or a container is opened.
  case h_1 => exact wellFormed_accept (.string _) hs
  case h_2 hlexeme => exact wellFormed_accept (ht _ hlexeme) hs
  case h_3 => exact List.forall_mem_cons.mpr ⟨harray, hs⟩
  case h_4 => exact ⟨hempty, hs⟩
  case h_5 => exact wellFormed_accept (.array nofun) (List.forall_mem_cons.mp hs).2
  -- A key and a colon lead to the value of a member.
  case h_8 => exact hs
  case h_9 => exact wellFormed_accept hempty hs.2
  case h_11 => exact List.forall_mem_cons.mpr hs
  -- After an item or a member there is another one, or the container is accepted.
  case h_12 => exact List.forall_mem_cons.mpr hs
  case h_13 =>
    exact wellFormed_accept (.array fun v hv => hs.1 v (List.mem_reverse.mp hv)) hs.2
  case h_14 => exact hs
  case h_15 => exact wellFormed_accept hs.1 hs.2

theorem wellFormed_of_run {s s' : State} {tokens : List Token} (hs : s.WellFormed)
    (htokens : ∀ t ∈ tokens, t.WellFormed) (h : s.run tokens = .ok s') : s'.WellFormed := by
  induction tokens generalizing s with
  | nil =>
    cases h
    exact hs
  | cons t tokens ih =>
    rw [run, List.foldlM_cons] at h
    cases hstep : s.step t with
    | error e =>
      rw [hstep] at h
      cases h
    | ok s₁ =>
      rw [hstep] at h
      obtain ⟨ht, hrest⟩ := List.forall_mem_cons.mp htokens
      exact ih (wellFormed_of_step hs ht hstep) hrest h

end State

/-- Every value that is read is well-formed. -/
theorem wellFormed_of_readChars {cs : List Char} {v : Json} (h : readChars cs = .ok v) :
    v.WellFormed := by
  unfold readChars at h
  split at h
  case h_1 => cases h
  case h_2 =>
    cases hrun : State.run (.value false []) (scanTokens 0 0 cs) with
    | error e =>
      rw [hrun] at h
      cases h
    | ok s =>
      have hstart : (State.value false []).WellFormed := fun _ hf => absurd hf List.not_mem_nil
      have hs := State.wellFormed_of_run hstart (fun t ht => wellFormed_of_mem_scanTokens ht) hrun
      rw [hrun] at h
      cases s with
      | done w =>
        cases h
        exact hs
      | value _ _ | key _ _ _ | colon _ _ _ | item _ _ | member _ _ => cases h

theorem wellFormed_of_read {text : String} {v : Json} (h : read text = .ok v) : v.WellFormed := by
  unfold read at h
  cases hread : readChars text.toList with
  | error e =>
    rw [hread] at h
    cases h
  | ok w =>
    rw [hread] at h
    cases h
    exact wellFormed_of_readChars hread

end WebhookRelay.Json
