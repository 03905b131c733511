import WebhookRelay.Proofs.Query.Errors

/-!
# Computations that end in few errors

A computation with cells is confined to a set of errors if, whatever its cells hold, it ends in no
error outside the set. What is confined in this sense can be put together, and the steps of a path
are put together from a few parts, nearly all of which fail in one way only: they do not apply.

- `Confined`: a computation is confined to a set of errors.
- `Confined.run`: so is its result, whichever memory it uses.
- `confined_gather`, `confined_keep`, `confined_descend`: to go on from data is confined if each
  step is.
- `Sorting.confined_sort`: sorting is confined if its test is.
-/

namespace WebhookRelay.Query

/-- A computation ends in no errors but those in a set: it is made of results that do not, of the
keeping of values in cells, and of such computations one after another. -/
inductive Confined (S : EvalError → Prop) {m : Type → Type} {ν : Type} [Monad m] [Memory m ν] :
    {α : Type} → m α → Prop where
  | pure {α : Type} (a : α) : Confined S (Pure.pure a : m α)
  | bind {α β : Type} {x : m α} {f : α → m β} (hx : Confined S x) (hf : ∀ a, Confined S (f a)) :
    Confined S (x >>= f)
  | store (v : Json) : Confined S (Memory.store v : m ν)
  | load (cell : ν) : Confined S (Memory.load cell : m Json)
  | replace (cell : ν) (v : Json) : Confined S (Memory.replace cell v : m ν)
  | result {α : Type} {x : Except EvalError α} (h : ∀ e, x = .error e → S e) :
    Confined S (Memory.pure x : m α)

namespace Confined

variable {S : EvalError → Prop} {α : Type}

/-- In the plain memory, the computation is its result. -/
theorem plain {x : Except EvalError α} (h : Confined S x) {e : EvalError} (he : x = .error e) :
    S e := by
  induction h with
  | pure a => cases he
  | bind _ _ ihx ihf =>
    obtain he | ⟨a, _, he⟩ := error_of_bind he
    · exact ihx he
    · exact ihf a he
  | store | load | replace => cases he
  | result h => exact h e he

/-- In the shared memory, the result may depend on the cells, but not so the errors. -/
theorem shared {x : Memory.Cells α} (h : Confined S x) {cells : Array Json} {e : EvalError}
    (he : x cells = .error e) : S e := by
  induction h generalizing cells with
  | pure a => cases he
  | @bind α β x f _ _ ihx ihf =>
    replace he : (x cells >>= fun p => f p.1 p.2) = .error e := he
    obtain he | ⟨p, _, he⟩ := error_of_bind he
    · exact ihx he
    · exact ihf p.1 he
  | store | load | replace => cases he
  | @result α x h =>
    replace he : (x >>= fun a => .ok (a, cells)) = .error e := he
    obtain he | ⟨_, _, he⟩ := error_of_bind he
    · exact h e he
    · cases he

/-- So an evaluation is confined, whichever memory it uses. -/
theorem run {sharing : Bool}
    {body : {m : Type → Type} → {ν : Type} → [Monad m] → [Memory m ν] → m α}
    (h : ∀ {m : Type → Type} {ν : Type} [Monad m] [Memory m ν], Confined S (body : m α)) :
    Confined S (Memory.run sharing body) := by
  refine .result (x := Memory.run sharing body) ?_
  intro e he
  unfold Memory.run at he
  cases sharing with
  | false => exact plain h he
  | true =>
    rw [if_pos rfl] at he
    replace he : ((body : Memory.Cells α) #[] >>= fun p => .ok p.1) = .error e := he
    obtain he | ⟨_, _, he⟩ := error_of_bind he
    · exact shared h he
    · cases he

section Closure

variable {m : Type → Type} {ν : Type} [Monad m] [Memory m ν] {β : Type}

/-- An error of the set. -/
theorem error {e : EvalError} (h : S e) : Confined S (Memory.pure (.error e) : m α) := by
  refine .result ?_
  intro e' he
  cases he
  exact h

/-- What is confined without cells is so with them. -/
theorem lift {x : Except EvalError α} (h : Confined S x) : Confined S (Memory.pure x : m α) :=
  .result fun _ => h.plain

/-- A computation may do one thing or the other. -/
theorem ite {c : Prop} [Decidable c] {x y : m α} (hx : Confined S x) (hy : Confined S y) :
    Confined S (if c then x else y) := by
  split
  · exact hx
  · exact hy

/-- A function on all items of a list. -/
theorem mapM {f : α → m β} (hf : ∀ a, Confined S (f a)) (xs : List α) : Confined S (xs.mapM f) := by
  have hloop : ∀ done, Confined S (List.mapM.loop f xs done) := by
    induction xs with
    | nil => exact fun done => .pure _
    | cons x xs ih => exact fun done => .bind (hf x) fun b => ih (b :: done)
  exact hloop []

end Closure

end Confined

/-! ## Data -/

section Steps

variable {S : EvalError → Prop} {m : Type → Type} {ν : Type} [Monad m] [Memory m ν]

namespace Datum

theorem confined_alone (step : Step) (v : Json) : Confined S (alone step v : m (Datum ν)) :=
  .bind (.store v) fun _ => .pure _

theorem confined_value (d : Datum ν) : Confined S (d.value : m Json) := .load d.cell

theorem confined_read (hS : S .mismatch) (d : Datum ν) : Confined S (d.read : m Json) := by
  unfold read
  split
  · exact .error hS
  · exact d.confined_value

theorem confined_settle (d : Datum ν) : Confined S (d.settle : m (Datum ν)) := by
  unfold settle
  split
  · exact .bind d.confined_value fun v => confined_alone .this v
  · exact .bind d.confined_value fun v => confined_alone .this v
  · exact .pure d

theorem confined_below (d : Datum ν) (places : List (Step × Json)) :
    Confined S (d.below places : m (List (Datum ν))) := by
  induction places with
  | nil => exact .pure []
  | cons place rest ih => exact .bind (.store place.2) fun _ => .bind ih fun _ => .pure _

theorem confined_parent (d : Datum ν) : Confined S (d.parent : m (Datum ν)) := by
  unfold parent
  split
  · exact confined_alone .absent .null
  · exact .pure _

theorem confined_root (d : Datum ν) : Confined S (d.root : m (Datum ν)) :=
  .bind (.load _) fun v => confined_alone .root v

end Datum

theorem Selection.confined_list (hS : S .mismatch) (s : Selection ν) :
    Confined S (s.list : m (List (Datum ν))) := by
  cases s with
  | data ds => exact .pure ds
  | itself d => exact .error hS

theorem confined_aloneAll (step : Step) (vs : List Json) :
    Confined S (aloneAll step vs : m (Selection ν)) :=
  .bind (.mapM (Datum.confined_alone step) vs) fun _ => .pure _

/-! ## Lists of data -/

theorem confined_gather (hS : S .mismatch) {f : Datum ν → m (Selection ν)}
    (hf : ∀ d, Confined S (f d)) (ds : List (Datum ν)) : Confined S (gather f ds) := by
  induction ds with
  | nil => exact .pure []
  | cons d ds ih =>
    exact .bind (hf d) fun s => .bind (s.confined_list hS) fun _ => .bind ih fun _ => .pure _

theorem confined_keep {α : Type} {f : α → m Bool} (hf : ∀ a, Confined S (f a)) (xs : List α) :
    Confined S (keep f xs) := by
  induction xs with
  | nil => exact .pure []
  | cons x xs ih => exact .bind (hf x) fun _ => .bind ih fun _ => .pure _

theorem confined_pairUp (hS : S .mismatch) (l r : Json ⊕ Selection ν) :
    Confined S (pairUp l r : m (List (Argument ν × Argument ν))) := by
  cases l with
  | inl x =>
    cases r with
    | inl y => exact .pure _
    | inr right => exact .bind (right.confined_list hS) fun _ => .pure _
  | inr left =>
    cases r with
    | inl y => exact .bind (left.confined_list hS) fun _ => .pure _
    | inr right =>
      unfold pairUp
      refine .ite (.pure _) ?_
      exact .bind (left.confined_list hS) fun _ => .bind (right.confined_list hS) fun _ => .pure _

theorem confined_singleValues (hS : S .mismatch) (l r : Selection ν) :
    Confined S (singleValues l r : m (Option (Json × Json))) := by
  unfold singleValues
  refine .ite (.pure none) (.bind (l.confined_list hS) fun as => ?_)
  split
  · refine .bind (r.confined_list hS) fun bs => ?_
    split
    · exact .bind (Datum.confined_read hS _) fun _ =>
        .bind (Datum.confined_read hS _) fun _ => .pure _
    · exact .pure none
  · exact .pure none

/-! ## Places below -/

section Descending

variable {f : Datum ν → m (Selection ν)}

/-- What is done at a place without places below. -/
theorem confined_leaf (hS : S .mismatch) (hf : ∀ d, Confined S (f d)) (d : Datum ν) :
    Confined S (do let here ← f d; let _ ← d.read; here.list) := by
  refine .bind (hf d) ?_
  intro here
  refine .bind (d.confined_read hS) ?_
  intro _
  exact here.confined_list hS

mutual

/-- To do something at a place and at all places below it is confined, if it is so at each. -/
theorem confined_descend (hS : S .mismatch) (hf : ∀ d, Confined S (f d)) (cell : ν) (step : Step)
    (above : List (ν × Step)) : ∀ v : Json, Confined S (descend f cell step above v)
  | .array items => by
    rw [descend]
    refine .bind (hf _) ?_
    intro here
    refine .bind (Datum.confined_read hS _) ?_
    intro _
    refine .bind (confined_descendItems hS hf _ 0 items) ?_
    intro below
    refine .bind (here.confined_list hS) ?_
    intro _
    exact .pure _
  | .object fields => by
    rw [descend]
    refine .bind (hf _) ?_
    intro here
    refine .bind (Datum.confined_read hS _) ?_
    intro now
    have hend : ∀ below, Confined S (do return (← here.list) ++ below : m (List (Datum ν))) := by
      intro below
      refine .bind (here.confined_list hS) ?_
      intro _
      exact .pure _
    -- The members are gone down to as what the place holds now.
    split
    · exact .bind (confined_descendFields hS hf _ fields) hend
    · exact .bind (confined_descendValues hS hf _ 0 fields) hend
  | .null => confined_leaf hS hf _
  | .bool _ => confined_leaf hS hf _
  | .int _ => confined_leaf hS hf _
  | .float _ => confined_leaf hS hf _
  | .string _ => confined_leaf hS hf _

/-- So it is at the items of an array. -/
theorem confined_descendItems (hS : S .mismatch) (hf : ∀ d, Confined S (f d))
    (above : List (ν × Step)) (i : Nat) :
    ∀ items : List Json, Confined S (descendItems f above i items)
  | [] => .pure []
  | v :: vs => by
    rw [descendItems]
    refine .bind (.store v) ?_
    intro cell
    refine .bind (confined_descend hS hf cell (.item i) above v) ?_
    intro first
    refine .bind (confined_descendItems hS hf above (i + 1) vs) ?_
    intro rest
    exact .pure _

/-- So it is at the members of an object. -/
theorem confined_descendFields (hS : S .mismatch) (hf : ∀ d, Confined S (f d)) (d : Datum ν) :
    ∀ fields : List (String × Json), Confined S (descendFields f d fields)
  | [] => .pure []
  | (k, v) :: rest => by
    rw [descendFields]
    refine .bind d.confined_value ?_
    intro now
    split
    · refine .bind (.store v) ?_
      intro cell
      refine .bind (confined_descend hS hf cell (.field k) _ v) ?_
      intro first
      refine .bind (confined_descendFields hS hf d rest) ?_
      intro others
      exact .pure _
    · exact .error hS

/-- So it is at the values of an object that has become an array. -/
theorem confined_descendValues (hS : S .mismatch) (hf : ∀ d, Confined S (f d))
    (above : List (ν × Step)) (i : Nat) :
    ∀ fields : List (String × Json), Confined S (descendValues f above i fields)
  | [] => .pure []
  | (_, v) :: rest => by
    rw [descendValues]
    refine .bind (.store v) ?_
    intro cell
    refine .bind (confined_descend hS hf cell (.item i) above v) ?_
    intro first
    refine .bind (confined_descendValues hS hf above (i + 1) rest) ?_
    intro others
    exact .pure _

end

end Descending

end Steps

/-! ## Results that need no cells -/

section Results

variable {S : EvalError → Prop}

namespace Sorting

variable {α : Type} {less : α → α → Except EvalError Bool}

theorem confined_takeRun (hless : ∀ x y, Confined S (less x y)) (falling : Bool) (last : α)
    (xs : List α) : Confined S (takeRun less falling last xs) := by
  induction xs generalizing last with
  | nil => exact .pure _
  | cons x rest ih =>
    rw [takeRun]
    refine .bind (hless x last) ?_
    intro b
    refine .ite ?_ (.pure _)
    exact .bind (ih x) fun _ => .pure _

theorem confined_firstRun (hless : ∀ x y, Confined S (less x y)) (xs : List α) :
    Confined S (firstRun less xs) := by
  match xs with
  | [] => exact .pure _
  | [x] => exact .pure _
  | x :: y :: rest =>
    refine .bind (hless y x) ?_
    intro falling
    exact .bind (confined_takeRun hless falling y rest) fun _ => .pure _

theorem confined_insert (hless : ∀ x y, Confined S (less x y)) (x : α) (xs : List α) :
    Confined S (insert less x xs) := by
  fun_induction insert less x xs with
  | case1 => exact .pure _
  | case2 xs y h lower upper ih1 ih2 =>
    refine .bind (hless x y) ?_
    intro b
    -- The test decides in which half the item goes.
    refine .ite ?_ ?_
    · exact .bind ih1 fun _ => .pure _
    · exact .bind ih2 fun _ => .pure _

theorem confined_insertAll (hless : ∀ x y, Confined S (less x y)) (sorted xs : List α) :
    Confined S (insertAll less sorted xs) := by
  induction xs generalizing sorted with
  | nil => exact .pure sorted
  | cons x rest ih => exact .bind (confined_insert hless x sorted) ih

/-- Sorting fails in no way in which the test does not. -/
theorem confined_sort (hless : ∀ x y, Confined S (less x y)) (xs : List α) :
    Confined S (sort less xs) := by
  refine .bind (confined_firstRun hless xs) ?_
  intro run
  exact confined_insertAll hless run.1 run.2

end Sorting

theorem confined_lessValue (hS : S .mismatch) (x y : Json) : Confined S (lessValue x y) := by
  refine .result (x := lessValue x y) ?_
  intro e he
  rw [error_of_lessValue he]
  exact hS

end Results

/-! ## Operations and sections -/

section Operations

variable {S : EvalError → Prop} {m : Type → Type} {ν : Type} [Monad m] [Memory m ν]

theorem confined_applyAll (hS : S .mismatch) {op : Arithmetic} (hop : S .overflow)
    (done : List Json) (pairs : List (Argument ν × Argument ν)) :
    Confined S (op.applyAll done pairs : m (List Json)) := by
  induction pairs generalizing done with
  | nil => exact .pure _
  | cons pair rest ih =>
    obtain ⟨l, r⟩ := pair
    have hread : ∀ x : Argument ν, Confined S (x.read : m Json) := by
      intro x
      cases x with
      | inl v => exact .pure v
      | inr d => exact d.confined_read hS
    rw [Arithmetic.applyAll]
    refine .bind (hread l) ?_
    intro x
    refine .bind (hread r) ?_
    intro y
    refine .bind (.result fun e he => error_of_apply he ▸ hop) ?_
    intro result
    cases result with
    | some v => exact ih (v :: done)
    | none => exact .pure []

theorem confined_selectSection (hS : S .mismatch) (start stop stride : Option Int) (d : Datum ν) :
    Confined S (selectSection start stop stride d : m (List (Datum ν))) := by
  unfold selectSection
  refine .bind d.confined_value ?_
  intro v
  refine .ite (.pure []) ?_
  refine .bind (.result fun e he => error_of_asArray he ▸ hS) ?_
  intro items
  refine .bind (.result fun e he => error_of_sectionOf he ▸ hS) ?_
  intro found
  split
  · exact d.confined_below found
  · exact .bind (.store _) fun _ => Datum.confined_below _ found

end Operations

end WebhookRelay.Query
