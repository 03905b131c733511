import Mathlib.Data.List.Forall2
import WebhookRelay.Validation

/-!
# Two spellings of a member

A member of an object may be given under its key or under its name, but not under both. Two objects
that differ only in that are checked to the same value, or both are refused: what a member is given
as, and whether it is given twice, can be told from the number of times that it is given under any
of its spellings, and that is the same on both sides.

- `Checked.value?`: the value that has been checked, without the problems.
- `Field.given?`: the value that a member is given.
- `Validation.Respelled`: two objects with the same members under other spellings.
- `Validation.value?_object`: they are checked to the same value.
-/

namespace WebhookRelay

/-! ## Checked values -/

namespace Checked

variable {α β : Type}

/-- The value, if there are no problems. -/
def value? : Checked α → Option α
  | .valid a => some a
  | .invalid _ => none

theorem value?_eq_some_iff {x : Checked α} {a : α} : x.value? = some a ↔ x = .valid a := by
  cases x with
  | valid b => simp [value?]
  | invalid ps => simp [value?]

@[simp] theorem value?_within (key : String) (x : Checked α) :
    (x.within key).value? = x.value? := by
  cases x <;> rfl

@[simp] theorem value?_seq (f : Checked (α → β)) (x : Checked α) :
    (f <*> x).value? = f.value?.bind fun g => x.value?.map g := by
  cases f <;> cases x <;> rfl

@[simp] theorem value?_map (f : α → β) (x : Checked α) : (f <$> x).value? = x.value?.map f := by
  cases x <;> rfl

@[simp] theorem value?_seqLeft (x : Checked α) (y : Checked β) :
    (x <* y).value? = x.value?.bind fun a => y.value?.map fun _ => a := by
  cases x <;> cases y <;> rfl

end Checked

namespace Validation

/-! ## Members -/

namespace Field

/-- Does a key stand for a member? -/
def isSpelled (f : Field) (key : String) : Bool :=
  key == f.key || key == f.name

/-- The value that a member is given. -/
def given? (f : Field) (fields : List (String × Json)) : Option Json :=
  (f.used? fields).map Prod.snd

/-- A member is given under both its key and its name. -/
def GivenTwice (f : Field) (fields : List (String × Json)) : Prop :=
  f.key ≠ f.name ∧ f.key ∈ fields.map Prod.fst ∧ f.name ∈ fields.map Prod.fst

/-- No key stands for two of the members. -/
def Unambiguous (known : List Field) : Prop :=
  ∀ f ∈ known, ∀ g ∈ known, g.isSpelled f.key = true ∨ g.isSpelled f.name = true → f = g

instance (known : List Field) : Decidable (Unambiguous known) :=
  inferInstanceAs (Decidable (∀ f ∈ known, ∀ g ∈ known, _))

theorem isSpelled_iff {f : Field} {key : String} :
    f.isSpelled key = true ↔ key = f.key ∨ key = f.name := by
  simp [isSpelled]

theorem Unambiguous.eq {known : List Field} (h : Unambiguous known) {f g : Field} {key : String}
    (hf : f ∈ known) (hg : g ∈ known) (hkey : f.isSpelled key = true)
    (hkey' : g.isSpelled key = true) : f = g := by
  obtain rfl | rfl := isSpelled_iff.mp hkey
  · exact h f hf g hg (.inl hkey')
  · exact h f hf g hg (.inr hkey')

variable {f : Field} {fields : List (String × Json)}

/-- A member is given under its key, or else under its name. -/
theorem used?_fst_eq_some_iff {key : String} :
    (f.used? fields).map Prod.fst = some key ↔
      key = f.key ∧ f.key ∈ fields.map Prod.fst ∨
        key = f.name ∧ f.key ∉ fields.map Prod.fst ∧ f.name ∈ fields.map Prod.fst := by
  have hlookup : ∀ k, k ∈ fields.map Prod.fst ↔ (fields.lookup k).isSome = true := by
    intro k
    rw [List.lookup_isSome_iff, List.mem_map]
    constructor
    · exact fun ⟨m, hm, hk⟩ => ⟨m, hm, beq_iff_eq.mpr hk.symm⟩
    · exact fun ⟨m, hm, hk⟩ => ⟨m, hm, (beq_iff_eq.mp hk).symm⟩
  unfold used?
  rw [hlookup f.key, hlookup f.name]
  cases fields.lookup f.key with
  | some v => simpa using eq_comm
  | none =>
    cases fields.lookup f.name with
    | some v => simpa using eq_comm
    | none => simp

/-- What is looked up under the key and then under the name is the first value under either of them,
unless the member is given twice. -/
theorem given?_eq_find? (h : ¬ f.GivenTwice fields) :
    f.given? fields = (fields.find? fun m => f.isSpelled m.1).map Prod.snd := by
  have hgiven : ∀ fields, f.given? fields = (fields.lookup f.key).or (fields.lookup f.name) := by
    intro fields
    unfold given? used?
    cases fields.lookup f.key with
    | some v => rfl
    | none => cases fields.lookup f.name <;> rfl
  rw [hgiven]
  induction fields with
  | nil => rfl
  | cons m rest ih =>
    obtain ⟨k, v⟩ := m
    have hrest : ¬ f.GivenTwice rest := fun ⟨hne, hkey, hname⟩ =>
      h ⟨hne, List.mem_cons_of_mem _ hkey, List.mem_cons_of_mem _ hname⟩
    rw [List.find?_cons]
    by_cases hkey : k = f.key
    · subst hkey
      simp [isSpelled]
    have hkey' : (f.key == k) = false := beq_eq_false_iff_ne.mpr (Ne.symm hkey)
    by_cases hname : k = f.name
    · -- The member is given here, so it is not given under its key further on.
      subst hname
      have hnone : rest.lookup f.key = none := by
        refine List.lookup_eq_none_iff.mpr fun m hm => bne_iff_ne.mpr fun heq => h ?_
        exact ⟨Ne.symm hkey, List.mem_cons_of_mem _ (List.mem_map.mpr ⟨m, hm, heq.symm⟩),
          List.mem_cons_self⟩
      simp [isSpelled, List.lookup_cons, hkey', hnone]
    · have hname' : (f.name == k) = false := beq_eq_false_iff_ne.mpr (Ne.symm hname)
      have hspelled : f.isSpelled k = false := by simp [isSpelled, hkey, hname]
      rw [List.lookup_cons, List.lookup_cons, hkey', hname', hspelled]
      exact ih hrest

/-- A member is given as often as its key and its name are. -/
theorem countP_isSpelled (hne : f.key ≠ f.name) (fields : List (String × Json)) :
    fields.countP (fun m => f.isSpelled m.1) =
      (fields.map Prod.fst).count f.key + (fields.map Prod.fst).count f.name := by
  induction fields with
  | nil => rfl
  | cons m rest ih =>
    rw [List.countP_cons, List.map_cons, List.count_cons, List.count_cons, ih]
    by_cases hkey : m.1 = f.key
    · have hname : m.1 ≠ f.name := fun heq => hne (hkey.symm.trans heq)
      simp [isSpelled, hkey, hne]
      omega
    · by_cases hname : m.1 = f.name
      · simp [isSpelled, hname, Ne.symm hne]
        omega
      · simp [isSpelled, hkey, hname]

/-- If no key is repeated, a member is given twice if it is so more than once. -/
theorem givenTwice_iff (hkeys : (fields.map Prod.fst).Nodup) :
    f.GivenTwice fields ↔
      f.key ≠ f.name ∧ 2 ≤ fields.countP fun m => f.isSpelled m.1 := by
  refine and_congr_right fun hne => ?_
  have hkey := List.nodup_iff_count.mp hkeys f.key
  have hname := List.nodup_iff_count.mp hkeys f.name
  rw [countP_isSpelled hne, ← List.count_pos_iff, ← List.count_pos_iff]
  omega

end Field

open WebhookRelay.Validation.Field

variable {α : Type} {known : List Field} {f : Field} {fields fields' : List (String × Json)}

theorem value?_required (fields : List (String × Json)) (f : Field) (check : Json → Checked α) :
    (required fields f check).value? = (f.given? fields).bind fun v => (check v).value? := by
  unfold required given?
  cases f.used? fields with
  | none => rfl
  | some entry => simp

theorem value?_withDefault (fields : List (String × Json)) (f : Field) (default : α)
    (check : Json → Checked α) :
    (withDefault fields f default check).value? =
      (f.given? fields).elim (some default) fun v => (check v).value? := by
  unfold withDefault given?
  cases f.used? fields with
  | none => rfl
  | some entry => simp

/-- There are no other members exactly if every key stands for a known member and none of these is
given twice. -/
theorem noOthers_eq_valid_iff (hknown : Unambiguous known) :
    noOthers fields known = .valid () ↔
      (∀ m ∈ fields, ∃ f ∈ known, f.isSpelled m.1 = true) ∧
        ∀ f ∈ known, ¬ f.GivenTwice fields := by
  have hvalid : noOthers fields known = .valid () ↔
      ∀ m ∈ fields, ∃ f ∈ known, (f.used? fields).map Prod.fst = some m.1 := by
    unfold noOthers
    dsimp only
    split
    case isTrue h => simpa [List.isEmpty_iff, List.filter_eq_nil_iff] using h
    case isFalse h => simpa [List.isEmpty_iff, List.filter_eq_nil_iff] using h
  rw [hvalid]
  constructor
  · intro hused
    refine ⟨fun m hm => ?_, fun f hf ⟨hne, hkey, hname⟩ => ?_⟩
    · obtain ⟨f, hf, huse⟩ := hused m hm
      obtain ⟨heq, -⟩ | ⟨heq, -⟩ := used?_fst_eq_some_iff.mp huse
      · exact ⟨f, hf, isSpelled_iff.mpr (.inl heq)⟩
      · exact ⟨f, hf, isSpelled_iff.mpr (.inr heq)⟩
    · -- A member given under both is used under its key, so its name would be another one's.
      obtain ⟨m, hm, hmname⟩ := List.mem_map.mp hname
      obtain ⟨g, hg, huse⟩ := hused m hm
      rw [hmname] at huse
      have huse := used?_fst_eq_some_iff.mp huse
      have hspelled : g.isSpelled f.name = true :=
        isSpelled_iff.mpr (huse.imp And.left And.left)
      obtain rfl : f = g := hknown f hf g hg (.inr hspelled)
      obtain ⟨heq, -⟩ | ⟨-, hnone, -⟩ := huse
      · exact hne heq.symm
      · exact hnone hkey
  · rintro ⟨hspelled, honce⟩ m hm
    obtain ⟨f, hf, hkey⟩ := hspelled m hm
    have hmem : m.1 ∈ fields.map Prod.fst := List.mem_map_of_mem hm
    refine ⟨f, hf, used?_fst_eq_some_iff.mpr ?_⟩
    obtain heq | heq := isSpelled_iff.mp hkey
    · exact .inl ⟨heq, heq ▸ hmem⟩
    · by_cases hgiven : f.key ∈ fields.map Prod.fst
      · by_cases hne : f.key = f.name
        · exact .inl ⟨heq.trans hne.symm, hgiven⟩
        · exact absurd ⟨hne, hgiven, heq ▸ hmem⟩ (honce f hf)
      · exact .inr ⟨heq, hgiven, heq ▸ hmem⟩

/-! ## Other spellings -/

/-- The same member under another of its spellings, with values that may be spelled differently in
their turn, or an unknown member that is the same on both sides. -/
inductive SameMember (known : List Field) (R : Field → Json → Json → Prop) :
    String × Json → String × Json → Prop
  | known {f : Field} (hf : f ∈ known) {m m' : String × Json} (hm : f.isSpelled m.1 = true)
      (hm' : f.isSpelled m'.1 = true) (hvalue : R f m.2 m'.2) : SameMember known R m m'
  | other {m : String × Json} (hm : ∀ f ∈ known, f.isSpelled m.1 = false) : SameMember known R m m

/-- Two objects, neither of which repeats a key, with the same members in the same order under other
spellings. -/
structure Respelled (known : List Field) (R : Field → Json → Json → Prop)
    (fields fields' : List (String × Json)) : Prop where
  keys : (fields.map Prod.fst).Nodup
  keys' : (fields'.map Prod.fst).Nodup
  members : List.Forall₂ (SameMember known R) fields fields'

variable {R : Field → Json → Json → Prop}

/-- A member stands on both sides in the same places. -/
theorem SameMember.isSpelled_eq (hknown : Unambiguous known) (hf : f ∈ known)
    {m m' : String × Json} (h : SameMember known R m m') :
    f.isSpelled m.1 = f.isSpelled m'.1 := by
  cases h with
  | @known g hg _ _ hm hm' =>
    by_cases hfg : f = g
    · subst hfg
      rw [hm, hm']
    · have hnot : ∀ {k}, g.isSpelled k = true → f.isSpelled k = false := fun hk =>
        Bool.eq_false_iff.mpr fun hk' => hfg (hknown.eq hf hg hk' hk)
      rw [hnot hm, hnot hm']
  | other => rfl

namespace Respelled

/-- It is given as often on both sides. -/
theorem countP_eq (hknown : Unambiguous known) (hf : f ∈ known)
    (h : List.Forall₂ (SameMember known R) fields fields') :
    fields.countP (fun m => f.isSpelled m.1) = fields'.countP fun m => f.isSpelled m.1 := by
  induction h with
  | nil => rfl
  | cons hm _ ih => rw [List.countP_cons, List.countP_cons, ih, hm.isSpelled_eq hknown hf]

/-- So if it is given twice on one side, it is on the other. -/
theorem givenTwice_iff (hknown : Unambiguous known) (hf : f ∈ known)
    (h : Respelled known R fields fields') : f.GivenTwice fields ↔ f.GivenTwice fields' := by
  rw [Field.givenTwice_iff h.keys, Field.givenTwice_iff h.keys', countP_eq hknown hf h.members]

/-- Both sides know all their members, or neither does. -/
theorem forall_isSpelled_iff (hknown : Unambiguous known)
    (h : List.Forall₂ (SameMember known R) fields fields') :
    (∀ m ∈ fields, ∃ f ∈ known, f.isSpelled m.1 = true) ↔
      ∀ m ∈ fields', ∃ f ∈ known, f.isSpelled m.1 = true := by
  induction h with
  | nil => rfl
  | @cons m m' _ _ hm _ ih =>
    have hmember : (∃ f ∈ known, f.isSpelled m.1 = true) ↔ ∃ f ∈ known, f.isSpelled m'.1 = true :=
      exists_congr fun f => and_congr_right fun hf => by rw [hm.isSpelled_eq hknown hf]
    rw [List.forall_mem_cons, List.forall_mem_cons, hmember, ih]

theorem noOthers_iff (hknown : Unambiguous known) (h : Respelled known R fields fields') :
    noOthers fields known = .valid () ↔ noOthers fields' known = .valid () := by
  rw [noOthers_eq_valid_iff hknown, noOthers_eq_valid_iff hknown,
    forall_isSpelled_iff hknown h.members]
  exact and_congr_right fun _ => forall₂_congr fun f hf => not_congr (h.givenTwice_iff hknown hf)

/-- A member that is not given twice has related values on both sides, or none on either. -/
theorem given? (hknown : Unambiguous known) (hf : f ∈ known)
    (h : Respelled known R fields fields') (honce : ¬ f.GivenTwice fields) :
    Option.Rel (R f) (f.given? fields) (f.given? fields') := by
  have honce' : ¬ f.GivenTwice fields' :=
    fun hagain => honce ((h.givenTwice_iff hknown hf).mpr hagain)
  rw [given?_eq_find? honce, given?_eq_find? honce']
  have hmembers := h.members
  clear h honce honce'
  induction hmembers with
  | nil => exact .none
  | @cons m m' _ _ hm _ ih =>
    have hspelled := hm.isSpelled_eq hknown hf
    rw [List.find?_cons, List.find?_cons, ← hspelled]
    cases hfound : f.isSpelled m.1 with
    | false => exact ih
    | true =>
      cases hm with
      | @known g hg _ _ hgm _ hvalue =>
        obtain rfl := hknown.eq hf hg hfound hgm
        exact .some hvalue
      | other hother => exact absurd hfound (Bool.eq_false_iff.mp (hother f hf))

end Respelled

/-- A required member has the same value on both sides if its values are checked to the same. -/
theorem value?_required_eq {check : Json → Checked α} {S : Json → Json → Prop}
    (hvalue : ∀ v v', S v v' → (check v).value? = (check v').value?)
    (h : Option.Rel S (f.given? fields) (f.given? fields')) :
    (required fields f check).value? = (required fields' f check).value? := by
  rw [value?_required, value?_required]
  generalize f.given? fields = given, f.given? fields' = given' at h
  cases h with
  | none => rfl
  | some hv => exact hvalue _ _ hv

/-- So has one that need not be there. -/
theorem value?_withDefault_eq {check : Json → Checked α} {S : Json → Json → Prop} (default : α)
    (hvalue : ∀ v v', S v v' → (check v).value? = (check v').value?)
    (h : Option.Rel S (f.given? fields) (f.given? fields')) :
    (withDefault fields f default check).value? =
      (withDefault fields' f default check).value? := by
  rw [value?_withDefault, value?_withDefault]
  generalize f.given? fields = given, f.given? fields' = given' at h
  cases h with
  | none => rfl
  | some hv => exact hvalue _ _ hv

/-- The same value is checked to the same. -/
theorem value?_eq_of_eq (check : Json → Checked α) (v v' : Json) (h : v = v') :
    (check v).value? = (check v').value? :=
  congrArg (fun v => (check v).value?) h

/-- **Spelling does not matter**: if the members have the same values wherever these are related,
two objects that differ only in the spelling of their members are checked to the same value, or both
are refused. -/
theorem value?_object {check : List (String × Json) → Checked α} (hknown : Unambiguous known)
    (h : Respelled known R fields fields')
    (hcheck : (∀ f ∈ known, Option.Rel (R f) (f.given? fields) (f.given? fields')) →
      (check fields).value? = (check fields').value?) :
    (check fields <* noOthers fields known).value? =
      (check fields' <* noOthers fields' known).value? := by
  rw [Checked.value?_seqLeft, Checked.value?_seqLeft]
  -- Either both sides have no other members or both are refused for them.
  cases hothers : noOthers fields known with
  | valid u =>
    have honce := ((noOthers_eq_valid_iff hknown).mp hothers).2
    rw [(h.noOthers_iff hknown).mp hothers, hcheck fun f hf => h.given? hknown hf (honce f hf)]
  | invalid ps =>
    cases hothers' : noOthers fields' known with
    | valid u =>
      rw [(h.noOthers_iff hknown).mpr hothers'] at hothers
      cases hothers
    | invalid ps' =>
      cases (check fields).value? <;> cases (check fields').value? <;> rfl

/-! ### Documents -/

/-- Two documents that are objects with the same members under other spellings, or the same. -/
inductive SameObject (known : List Field) (R : Field → Json → Json → Prop) : Json → Json → Prop
  | respelled {fields fields' : List (String × Json)} (h : Respelled known R fields fields') :
    SameObject known R (.object fields) (.object fields')
  | same (d : Json) : SameObject known R d d

/-- Two documents that are arrays with related items, or the same. -/
inductive SameItems (R : Json → Json → Prop) : Json → Json → Prop
  | items {vs vs' : List Json} (h : List.Forall₂ R vs vs') : SameItems R (.array vs) (.array vs')
  | same (d : Json) : SameItems R d d

/-- Lists are checked to the same value if their items are. -/
theorem value?_list_eq {check : Json → Checked α} {S : Json → Json → Prop}
    (hvalue : ∀ v v', S v v' → (check v).value? = (check v').value?) {d d' : Json}
    (h : SameItems S d d') : (list check d).value? = (list check d').value? := by
  cases h with
  | same => rfl
  | @items vs vs' h =>
    unfold list
    generalize 0 = i
    induction h generalizing i with
    | nil => rfl
    | cons hv _ ih =>
      simp only [items, Checked.value?_seq, Checked.value?_map, Checked.value?_within, ih,
        hvalue _ _ hv]

end Validation

end WebhookRelay
