import Mathlib.Data.List.Forall2
import WebhookRelay.Query

/-!
# Evaluations that agree

Two evaluations in the plain memory agree when they end in the same error, or in values that
correspond. Two data are alike when they have the same value, and when the tops of their documents
stand in a given relation: nothing else about the way to a datum matters to the steps of a path that
go down.

- `Agree`: two results agree up to a correspondence of their values.
- `Alike`: two data are alike.
- `gather_agree`, `keep_agree`, `descend_agree`: going on from alike data in ways that agree gives
  results that agree.
- `fields_agree`, `index_agree`, `slice_agree`, `filter_agree`: so do the steps that go down.
-/

namespace WebhookRelay.Query

/-! ## Results -/

theorem ok_bind {ε α β : Type} (a : α) (f : α → Except ε β) : (Except.ok a >>= f) = f a := rfl

/-- Two results agree: they are the same error, or values that correspond. -/
inductive Agree {ε α β : Type} (R : α → β → Prop) : Except ε α → Except ε β → Prop where
  | ok {a : α} {b : β} (h : R a b) : Agree R (.ok a) (.ok b)
  | error (e : ε) : Agree R (.error e) (.error e)

namespace Agree

variable {ε α β γ δ : Type} {R : α → β → Prop} {S : γ → δ → Prop}

/-- Results that agree stay so when they are gone on with in ways that agree. -/
theorem bind {x : Except ε α} {y : Except ε β} {f : α → Except ε γ} {g : β → Except ε δ}
    (h : Agree R x y) (hfg : ∀ a b, R a b → Agree S (f a) (g b)) :
    Agree S (x >>= f) (y >>= g) := by
  cases h with
  | ok h => exact hfg _ _ h
  | error e => exact .error e

/-- Every result agrees with itself. -/
theorem refl (x : Except ε α) : Agree Eq x x := by
  cases x with
  | ok a => exact .ok rfl
  | error e => exact .error e

/-- To agree up to equality is to be equal. -/
theorem eq {x y : Except ε α} (h : Agree Eq x y) : x = y := by
  cases h with
  | ok h => rw [h]
  | error e => rfl

end Agree

/-! ## Data -/

/-- Was the value reached by a step? A bare document was not, nor was what is above the top. -/
def Step.IsSettled : Step → Prop
  | .document | .absent => False
  | _ => True

namespace Datum

/-- The value at the top of the document that a datum belongs to. -/
def top (x : Datum Json) : Json := (x.above.getLast?.map Prod.fst).getD x.cell

/-- The datum directly below, given by its step and value. -/
def under (x : Datum Json) (p : Step × Json) : Datum Json :=
  ⟨p.2, p.1, (x.cell, x.step) :: x.above⟩

theorem value_eq (x : Datum Json) : (x.value : Except EvalError _) = .ok x.cell := rfl

theorem settle_eq {x : Datum Json} (h : x.step.IsSettled) :
    (x.settle : Except EvalError _) = .ok x := by
  unfold settle
  cases hs : x.step <;> simp_all [Step.IsSettled, pure, Except.pure]

theorem read_eq {x : Datum Json} (h : x.step.IsSettled) :
    (x.read : Except EvalError _) = .ok x.cell := by
  unfold read
  cases hs : x.step <;> simp_all [Step.IsSettled, value_eq]

/-- In the plain memory, going down never fails. -/
theorem below_eq (x : Datum Json) (ps : List (Step × Json)) :
    (x.below ps : Except EvalError _) = .ok (ps.map x.under) := by
  induction ps with
  | nil => rfl
  | cons p rest ih =>
    obtain ⟨step, v⟩ := p
    rw [below, ih]
    rfl

/-- Going down leaves the top where it is. -/
@[simp] theorem top_under (x : Datum Json) (p : Step × Json) : (x.under p).top = x.top := by
  simp only [top, under, List.getLast?_cons]
  cases x.above.getLast? <;> rfl

end Datum

/-- Two data are alike: they were reached by steps, they have the same value, and the tops of their
documents stand in a relation. -/
structure Alike (T : Json → Json → Prop) (x y : Datum Json) : Prop where
  cell : x.cell = y.cell
  settled : x.step.IsSettled
  settled' : y.step.IsSettled
  tops : T x.top y.top

variable {T : Json → Json → Prop} {x y : Datum Json}

theorem Alike.under (h : Alike T x y) {p : Step × Json} (hp : p.1.IsSettled) :
    Alike T (x.under p) (y.under p) where
  cell := rfl
  settled := hp
  settled' := hp
  tops := by
    rw [Datum.top_under, Datum.top_under]
    exact h.tops

/-- The data at the same places below alike data are alike. -/
theorem below_agree (h : Alike T x y) {ps : List (Step × Json)} (hps : ∀ p ∈ ps, p.1.IsSettled) :
    Agree (List.Forall₂ (Alike T)) (x.below ps : Except EvalError _) (y.below ps) := by
  rw [Datum.below_eq, Datum.below_eq]
  refine .ok ?_
  induction ps with
  | nil => exact .nil
  | cons p rest ih =>
    exact .cons (h.under (hps p List.mem_cons_self))
      (ih fun q hq => hps q (List.mem_cons_of_mem p hq))

/-! ## Selections -/

/-- Two selections agree: both have data, and these are alike one by one. -/
inductive Selection.Alike (T : Json → Json → Prop) : Selection Json → Selection Json → Prop where
  | data {xs ys : List (Datum Json)} (h : List.Forall₂ (Query.Alike T) xs ys) :
    Alike T (.data xs) (.data ys)

namespace Selection.Alike

variable {s t : Selection Json}

theorem isEmpty_eq (h : Selection.Alike T s t) : s.isEmpty = t.isEmpty := by
  obtain ⟨h⟩ := h
  cases h <;> rfl

theorem list_agree (h : Selection.Alike T s t) :
    Agree (List.Forall₂ (Query.Alike T)) (s.list : Except EvalError _) t.list := by
  obtain ⟨h⟩ := h
  exact .ok h

end Selection.Alike

/-- Data that agree make selections that agree. -/
theorem Agree.data {xs ys : Except EvalError (List (Datum Json))}
    (h : Agree (List.Forall₂ (Alike T)) xs ys) :
    Agree (Selection.Alike T) (do return .data (← xs)) (do return .data (← ys)) :=
  h.bind fun _ _ h => .ok (.data h)

/-- Lists that agree, one after another, agree. -/
theorem Agree.append {xs ys xs' ys' : Except EvalError (List (Datum Json))}
    (h : Agree (List.Forall₂ (Alike T)) xs ys) (h' : Agree (List.Forall₂ (Alike T)) xs' ys') :
    Agree (List.Forall₂ (Alike T)) (do return (← xs) ++ (← xs')) (do return (← ys) ++ (← ys')) :=
  h.bind fun _ _ h => h'.bind fun _ _ h' => .ok (List.rel_append h h')

/-! ## Going on from data -/

/-- What a path gives from a datum in the plain memory. -/
abbrev Path.find (p : Path) (x : Datum Json) : Except EvalError (Selection Json) := p.select x

/-- Two functions go on from alike data in ways that agree. -/
def StepsAgree (T : Json → Json → Prop)
    (f g : Datum Json → Except EvalError (Selection Json)) : Prop :=
  ∀ x y, Alike T x y → Agree (Selection.Alike T) (f x) (g y)

variable {f g : Datum Json → Except EvalError (Selection Json)}

theorem gather_agree (hfg : StepsAgree T f g) {xs ys : List (Datum Json)}
    (h : List.Forall₂ (Alike T) xs ys) :
    Agree (List.Forall₂ (Alike T)) (gather f xs) (gather g ys) := by
  induction h with
  | nil => exact .ok .nil
  | cons hxy _ ih =>
    refine (hfg _ _ hxy).bind fun s t hst => ?_
    exact hst.list_agree.append ih

/-- Of alike data, tests that agree keep alike ones. -/
theorem keep_agree {p q : Datum Json → Except EvalError Bool}
    (hpq : ∀ x y, Alike T x y → Agree Eq (p x) (q y)) {xs ys : List (Datum Json)}
    (h : List.Forall₂ (Alike T) xs ys) :
    Agree (List.Forall₂ (Alike T)) (keep p xs) (keep q ys) := by
  induction h with
  | nil => exact .ok .nil
  | cons hxy _ ih =>
    refine (hpq _ _ hxy).bind fun a b hab => ?_
    subst hab
    refine ih.bind fun xs ys h => .ok ?_
    cases a with
    | true => exact .cons hxy h
    | false => exact h

/-! ## Descending -/

/-- At a value without places below it, descending is going on from it. -/
theorem leaf_agree (hfg : StepsAgree T f g) (h : Alike T x y) :
    Agree (List.Forall₂ (Alike T)) (do let s ← f x; let _ ← x.read; s.list)
      (do let t ← g y; let _ ← y.read; t.list) := by
  refine (hfg _ _ h).bind fun s t hst => ?_
  rw [Datum.read_eq h.settled, Datum.read_eq h.settled']
  exact hst.list_agree

mutual

/-- Descending from alike data gives alike data. The induction is on the value at the data: in the
plain memory a function cannot change it. -/
theorem descend_agree (hfg : StepsAgree T f g) :
    ∀ (v : Json) {step step' : Step} {above above' : List (Json × Step)},
      Alike T ⟨v, step, above⟩ ⟨v, step', above'⟩ →
      Agree (List.Forall₂ (Alike T)) (descend f v step above v) (descend g v step' above' v)
  | .array items, step, step', above, above', h => by
    -- First the array itself, then its items, which are read after the function has been there.
    rw [descend, descend]
    refine (hfg _ _ h).bind fun s t hst => ?_
    rw [Datum.read_eq h.settled, Datum.read_eq h.settled']
    refine (descendItems_agree hfg h items 0).bind fun xs ys hxs => ?_
    exact hst.list_agree.append (.ok hxs)
  | .object fields, step, step', above, above', h => by
    rw [descend, descend]
    refine (hfg _ _ h).bind fun s t hst => ?_
    rw [Datum.read_eq h.settled, Datum.read_eq h.settled']
    refine (descendFields_agree hfg h ⟨fields, rfl⟩ fields).bind fun xs ys hxs => ?_
    exact hst.list_agree.append (.ok hxs)
  | .null, _, _, _, _, h => leaf_agree hfg h
  | .bool _, _, _, _, _, h => leaf_agree hfg h
  | .int _, _, _, _, _, h => leaf_agree hfg h
  | .float _, _, _, _, _, h => leaf_agree hfg h
  | .string _, _, _, _, _, h => leaf_agree hfg h

/-- So does descending from the items of alike arrays. -/
theorem descendItems_agree (hfg : StepsAgree T f g) {v : Json} {step step' : Step}
    {above above' : List (Json × Step)} (h : Alike T ⟨v, step, above⟩ ⟨v, step', above'⟩) :
    ∀ (items : List Json) (i : Nat),
      Agree (List.Forall₂ (Alike T)) (descendItems f ((v, step) :: above) i items)
        (descendItems g ((v, step') :: above') i items)
  | [], _ => .ok .nil
  | w :: ws, i => by
    rw [descendItems, descendItems]
    have hw := descend_agree hfg w (h.under (p := (.item i, w)) trivial)
    exact hw.append (descendItems_agree hfg h ws (i + 1))

/-- So does descending from the members of alike objects. -/
theorem descendFields_agree (hfg : StepsAgree T f g) {v : Json} {step step' : Step}
    {above above' : List (Json × Step)} (h : Alike T ⟨v, step, above⟩ ⟨v, step', above'⟩)
    (hv : ∃ fields, v = .object fields) :
    ∀ fields : List (String × Json),
      Agree (List.Forall₂ (Alike T)) (descendFields f ⟨v, step, above⟩ fields)
        (descendFields g ⟨v, step', above'⟩ fields)
  | [] => .ok .nil
  | (k, w) :: rest => by
    have hw := descend_agree hfg w (h.under (p := (.field k, w)) trivial)
    have hrest := descendFields_agree hfg h hv rest
    -- Each member is looked up in what the place holds now, and that is an object still.
    obtain ⟨fields, rfl⟩ := hv
    rw [descendFields, descendFields]
    exact hw.append hrest

end

/-! ## Steps that go down -/

theorem isSettled_of_mem_fieldsOf {names : List String} {v : Json} {p : Step × Json}
    (hp : p ∈ fieldsOf names v) : p.1.IsSettled := by
  cases v with
  | object fields =>
    obtain ⟨name, -, h⟩ := List.mem_filterMap.mp hp
    obtain ⟨w, -, rfl⟩ := Option.map_eq_some_iff.mp h
    trivial
  | _ => cases hp

theorem isSettled_of_itemOf {n : Int} {v : Json} {ps : List (Step × Json)}
    (h : itemOf n v = .ok ps) {p : Step × Json} (hp : p ∈ ps) : p.1.IsSettled := by
  have hps : ps = [] ∨ ∃ w, ps = [(.item n, w)] := by
    unfold itemOf at h
    grind
  obtain rfl | ⟨w, rfl⟩ := hps
  · cases hp
  · rw [List.mem_singleton.mp hp]
    trivial

theorem isSettled_of_sectionOf {start stop stride : Option Int} {items : List Json}
    {ps : List (Step × Json)} (h : sectionOf start stop stride items = .ok ps) {p : Step × Json}
    (hp : p ∈ ps) : p.1.IsSettled := by
  unfold sectionOf at h
  cases hi : sectionIndices items.length start stop stride with
  | error e => rw [hi] at h; cases h
  | ok indices =>
    rw [hi] at h
    cases h
    obtain ⟨i, -, h⟩ := List.mem_filterMap.mp hp
    obtain ⟨w, -, rfl⟩ := Option.map_eq_some_iff.mp h
    trivial

/-- A step that only reads the value of a datum and goes down from there. -/
theorem step_agree (h : Alike T x y) (places : Json → Except EvalError (List (Step × Json)))
    (hp : ∀ ps, places x.cell = .ok ps → ∀ p ∈ ps, p.1.IsSettled) :
    Agree (Selection.Alike T)
      (do let d ← x.settle; return .data (← d.below (← places (← d.value))))
      (do let d ← y.settle; return .data (← d.below (← places (← d.value)))) := by
  rw [Datum.settle_eq h.settled, Datum.settle_eq h.settled']
  show Agree (Selection.Alike T) (do return .data (← x.below (← places x.cell)))
    (do return .data (← y.below (← places y.cell)))
  rw [← h.cell]
  cases hi : places x.cell with
  | error e => exact .error e
  | ok ps => exact (below_agree h (hp ps hi)).data

theorem fields_agree (h : Alike T x y) (names : List String) :
    Agree (Selection.Alike T) ((Path.fields names).find x) ((Path.fields names).find y) := by
  rw [Path.find, Path.find, Path.select, Path.select]
  refine step_agree h (fun v => .ok (fieldsOf names v)) fun ps hps p hp => ?_
  cases hps
  exact isSettled_of_mem_fieldsOf hp

theorem index_agree (h : Alike T x y) (n : Int) :
    Agree (Selection.Alike T) ((Path.index n).find x) ((Path.index n).find y) := by
  rw [Path.find, Path.find, Path.select, Path.select]
  exact step_agree h (itemOf n) fun ps hps p hp => isSettled_of_itemOf hps hp

/-! ## Steps that put another value in the place of a datum

A section of a value that is no array, and a choice among the members of an object, go down from an
array that is made for them. If the datum was the top, so is that array now. -/

/-- Alike data with another value in their place are alike if nothing is asked of their tops. -/
theorem Alike.replaced (h : Alike T x y) (hT : ∀ a b, T a b) (v : Json) :
    Alike T ⟨v, x.step, x.above⟩ ⟨v, y.step, y.above⟩ :=
  ⟨rfl, h.settled, h.settled', hT _ _⟩

theorem selectSection_agree (h : Alike T x y) (hT : ∀ a b, T a b)
    (start stop stride : Option Int) :
    Agree (List.Forall₂ (Alike T)) (selectSection start stop stride x : Except EvalError _)
      (selectSection start stop stride y) := by
  unfold selectSection
  rw [Datum.value_eq, Datum.value_eq]
  refine Agree.bind (R := Eq) (.ok h.cell) fun v _ hv => ?_
  subst hv
  split
  · exact .ok .nil
  · refine (Agree.refl (asArray v)).bind fun items _ hi => ?_
    subst hi
    cases hs : sectionOf start stop stride items with
    | error e => exact .error e
    | ok ps =>
      have hps : ∀ p ∈ ps, p.1.IsSettled := fun p hp => isSettled_of_sectionOf hs hp
      -- Only a value that is no array is replaced by one.
      cases v with
      | array _ => exact below_agree h hps
      | _ => exact below_agree (h.replaced hT (.array items)) hps

theorem slice_agree (h : Alike T x y) (hT : ∀ a b, T a b) (start stop stride : Option Int) :
    Agree (Selection.Alike T) ((Path.slice start stop stride).find x)
      ((Path.slice start stop stride).find y) := by
  rw [Path.find, Path.find, Path.select, Path.select, Datum.settle_eq h.settled,
    Datum.settle_eq h.settled']
  exact (selectSection_agree h hT start stop stride).data

/-- Items that are chosen alike are alike. -/
theorem chosen_agree (h : Alike T x y) (kept : Except EvalError (List (Json × Nat))) :
    Agree (Selection.Alike T)
      (do let kept ← kept; return .data (← x.below (kept.map fun (v, i) => (.item i, v))))
      (do let kept ← kept; return .data (← y.below (kept.map fun (v, i) => (.item i, v)))) := by
  refine (Agree.refl kept).bind fun kept _ hk => ?_
  subst hk
  refine (below_agree h fun p hp => ?_).data
  obtain ⟨_, -, rfl⟩ := List.mem_map.mp hp
  trivial

theorem filter_agree (h : Alike T x y) (hT : ∀ a b, T a b) (conditions : List Condition) :
    Agree (Selection.Alike T) ((Path.filter conditions).find x)
      ((Path.filter conditions).find y) := by
  rw [Path.find, Path.find, Path.select, Path.select, Datum.settle_eq h.settled,
    Datum.settle_eq h.settled']
  refine Agree.bind (R := Alike T) (.ok h) fun x y h => ?_
  dsimp only
  rw [Datum.value_eq, Datum.value_eq]
  refine Agree.bind (R := Eq) (.ok h.cell) fun v _ hv => ?_
  subst hv
  cases v with
  | array items => exact chosen_agree h _
  | object fields => exact chosen_agree (h.replaced hT (.array (fields.map Prod.snd))) _
  | _ => exact .ok (.data .nil)

/-! ## Joining steps -/

section Joins

variable {l l' r r' : Path}

theorem child_agree (hl : Agree (Selection.Alike T) (l.find x) (l'.find y))
    (hr : StepsAgree T r.find r'.find) :
    Agree (Selection.Alike T) ((Path.child l r).find x) ((Path.child l' r').find y) := by
  rw [Path.find, Path.find, Path.select_child, Path.select_child]
  refine hl.bind fun s t hst => hst.list_agree.bind fun xs ys h => ?_
  exact (gather_agree hr h).data

theorem descendants_agree (hl : Agree (Selection.Alike T) (l.find x) (l'.find y))
    (hr : StepsAgree T r.find r'.find) :
    Agree (Selection.Alike T) ((Path.descendants l r).find x)
      ((Path.descendants l' r').find y) := by
  rw [Path.find, Path.find, Path.select, Path.select]
  refine hl.bind fun s t hst => ?_
  obtain ⟨h⟩ := hst
  refine (gather_agree (fun a b hab => ?_) h).data
  -- Alike data hold the same value, so one induction on it serves both sides.
  obtain ⟨v, step, above⟩ := a
  obtain ⟨w, step', above'⟩ := b
  obtain rfl : v = w := hab.cell
  exact (descend_agree hr v hab).data

theorem where_agree (hl : Agree (Selection.Alike T) (l.find x) (l'.find y))
    (hr : StepsAgree T r.find r'.find) :
    Agree (Selection.Alike T) ((Path.where l r).find x) ((Path.where l' r').find y) := by
  rw [Path.find, Path.find, Path.select, Path.select]
  refine hl.bind fun s t hst => hst.list_agree.bind fun xs ys h => ?_
  refine (keep_agree (fun a b hab => ?_) h).data
  exact (hr a b hab).bind fun s t hst => .ok (by rw [hst.isEmpty_eq])

theorem whereNot_agree (hl : Agree (Selection.Alike T) (l.find x) (l'.find y))
    (hr : StepsAgree T r.find r'.find) :
    Agree (Selection.Alike T) ((Path.whereNot l r).find x) ((Path.whereNot l' r').find y) := by
  rw [Path.find, Path.find, Path.select, Path.select]
  refine hl.bind fun s t hst => hst.list_agree.bind fun xs ys h => ?_
  refine (keep_agree (fun a b hab => ?_) h).data
  exact (hr a b hab).bind fun s t hst => .ok hst.isEmpty_eq

theorem union_agree (hl : Agree (Selection.Alike T) (l.find x) (l'.find y))
    (hr : Agree (Selection.Alike T) (r.find x) (r'.find y)) :
    Agree (Selection.Alike T) ((Path.union l r).find x) ((Path.union l' r').find y) := by
  rw [Path.find, Path.find, Path.select, Path.select]
  refine hl.bind fun s t hst => hr.bind fun s' t' hst' => ?_
  refine hst.list_agree.bind fun xs ys h => hst'.list_agree.bind fun xs' ys' h' => ?_
  exact .ok (.data (List.rel_append h h'))

end Joins

/-! ## Values -/

/-- Alike data have the same values. -/
theorem read_agree {xs ys : List (Datum Json)} (h : List.Forall₂ (Alike T) xs ys) :
    (xs.mapM Datum.read : Except EvalError _) = ys.mapM Datum.read := by
  induction h with
  | nil => rfl
  | cons hxy _ ih =>
    rw [List.mapM_cons, List.mapM_cons, Datum.read_eq hxy.settled, Datum.read_eq hxy.settled',
      hxy.cell, ih]

end WebhookRelay.Query
