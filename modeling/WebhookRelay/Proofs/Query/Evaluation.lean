import WebhookRelay.Proofs.Query.Confinement

/-!
# How evaluations end

A path that is evaluated on a document selects values, or it fails to apply, or it ends in an error
that one of its steps or conditions can end in. What the document is makes no difference to that.

- `confined_child`, `confined_filter` and the like: each step is confined if its parts are.
- `Path.confined_select`: so are all paths, by recursion with their operands, conditions and sort
  keys.
- `error_of_evaluate`, `error_of_evaluate_address`: the errors of an evaluation, for a query and for
  a predicate.
-/

namespace WebhookRelay.Query

/-! ## Single steps -/

section SingleSteps

variable {S : EvalError → Prop} {m : Type → Type} {ν : Type} [Monad m] [Memory m ν]
  {l r : Path} {d : Datum ν}

theorem confined_fields (names : List String) (d : Datum ν) :
    Confined S ((Path.fields names).select d : m (Selection ν)) := by
  rw [Path.select]
  refine .bind d.confined_settle ?_
  intro d
  refine .bind d.confined_value ?_
  intro v
  exact .bind (d.confined_below _) fun _ => .pure _

theorem confined_index (hS : S .mismatch) {n : Int} (hn : n < 0 → S .indexOutOfRange)
    (d : Datum ν) : Confined S ((Path.index n).select d : m (Selection ν)) := by
  rw [Path.select]
  refine .bind d.confined_settle ?_
  intro d
  refine .bind d.confined_value ?_
  intro v
  refine .bind (.result ?_) ?_
  · intro e he
    obtain rfl | ⟨rfl, hneg⟩ := error_of_itemOf he
    · exact hS
    · exact hn hneg
  · intro places
    exact .bind (d.confined_below places) fun _ => .pure _

/-- To go on from the data of a path is confined, if the path and what is done with them are. -/
theorem confined_data (hS : S .mismatch) (hl : Confined S (l.select d : m (Selection ν)))
    {f : List (Datum ν) → m (List (Datum ν))} (hf : ∀ ds, Confined S (f ds)) :
    Confined S (do
      let ds ← (← l.select d).list
      return Selection.data (← f ds) : m (Selection ν)) := by
  refine .bind hl ?_
  intro s
  refine .bind (s.confined_list hS) ?_
  intro ds
  exact .bind (hf ds) fun _ => .pure _

theorem confined_child (hS : S .mismatch) (hl : Confined S (l.select d : m (Selection ν)))
    (hr : ∀ d, Confined S (r.select d : m (Selection ν))) :
    Confined S ((Path.child l r).select d : m (Selection ν)) := by
  rw [Path.select_child]
  exact confined_data hS hl (confined_gather hS hr)

theorem confined_where (hS : S .mismatch) (hl : Confined S (l.select d : m (Selection ν)))
    (hr : ∀ d, Confined S (r.select d : m (Selection ν))) :
    Confined S ((Path.where l r).select d : m (Selection ν)) := by
  rw [Path.select]
  exact confined_data hS hl (confined_keep fun d => .bind (hr d) fun _ => .pure _)

theorem confined_whereNot (hS : S .mismatch) (hl : Confined S (l.select d : m (Selection ν)))
    (hr : ∀ d, Confined S (r.select d : m (Selection ν))) :
    Confined S ((Path.whereNot l r).select d : m (Selection ν)) := by
  rw [Path.select]
  exact confined_data hS hl (confined_keep fun d => .bind (hr d) fun _ => .pure _)

theorem confined_descendants (hS : S .mismatch) (hl : Confined S (l.select d : m (Selection ν)))
    (hr : ∀ d, Confined S (r.select d : m (Selection ν))) :
    Confined S ((Path.descendants l r).select d : m (Selection ν)) := by
  rw [Path.select]
  refine .bind hl ?_
  intro s
  refine .bind (confined_gather hS ?_ _) fun _ => .pure _
  intro start
  refine .bind start.confined_value ?_
  intro v
  exact .bind (confined_descend hS hr _ _ _ v) fun _ => .pure _

theorem confined_union (hS : S .mismatch) (hl : Confined S (l.select d : m (Selection ν)))
    (hr : Confined S (r.select d : m (Selection ν))) :
    Confined S ((Path.union l r).select d : m (Selection ν)) := by
  rw [Path.select]
  refine .bind hl ?_
  intro left
  refine .bind hr ?_
  intro right
  refine .bind (left.confined_list hS) ?_
  intro _
  exact .bind (right.confined_list hS) fun _ => .pure _

/-- To go down to the places of those things for which a test holds. -/
theorem confined_chosen {α : Type} {f : α → m Bool} (hf : ∀ a, Confined S (f a)) (xs : List α)
    (places : List α → List (Step × Json)) (d : Datum ν) :
    Confined S (do
      let kept ← keep f xs
      return Selection.data (← d.below (places kept)) : m (Selection ν)) := by
  refine .bind (confined_keep hf xs) ?_
  intro kept
  exact .bind (d.confined_below _) fun _ => .pure _

theorem confined_filter {conditions : List Condition}
    (hmeets : ∀ v, Confined S (meetsAll conditions v : m Bool)) (d : Datum ν) :
    Confined S ((Path.filter conditions).select d : m (Selection ν)) := by
  rw [Path.select]
  refine .bind d.confined_settle ?_
  intro d
  refine .bind d.confined_value ?_
  intro v
  -- The members of an object become an array first, and nothing else has items.
  split
  · exact confined_chosen (fun item : Json × Nat => hmeets item.1) _ _ d
  · refine .bind (.replace d.cell _) ?_
    intro cell
    exact confined_chosen (fun item : Json × Nat => hmeets item.1) _ _ _
  · exact .pure _

/-- Items are compared by themselves, or by the sort keys in cells of their own. -/
theorem confined_sorted (hS : S .mismatch) {keys : List SortKey}
    (hless : ∀ {m : Type → Type} {ν : Type} [Monad m] [Memory m ν] (x y : Datum ν),
      Confined S (lessByKeys keys x y : m Bool)) (d : Datum ν) :
    Confined S ((Path.sorted keys).select d : m (Selection ν)) := by
  have hlessByAll : ∀ x y, Confined S (Memory.run (keys.any fun key => key.path.sharesPlaces) do
      lessByKeys keys (← Datum.fresh x) (← Datum.fresh y)) := by
    intro x y
    refine .run ?_
    intro m ν _ _
    refine .bind (Datum.confined_alone .this x) ?_
    intro x
    refine .bind (Datum.confined_alone .this y) ?_
    intro y
    exact hless x y
  have hfresh : ∀ sorted : List Json,
      Confined S (do return Selection.data [← Datum.fresh (.array sorted)] : m (Selection ν)) :=
    fun _ => .bind (Datum.confined_alone .this _) fun _ => .pure _
  rw [Path.select]
  refine .bind d.confined_value ?_
  intro v
  split
  · exact .error hS
  · exact .error hS
  · refine .ite ?_ (.pure _)
    exact .bind (.lift (Sorting.confined_sort (confined_lessValue hS) _)) hfresh
  · refine .bind (.lift (Sorting.confined_sort ?_ _)) hfresh
    intro x y
    split
    · exact confined_lessValue hS x y
    · exact hlessByAll x y
  · exact .pure _

theorem confined_arithmetic (hS : S .mismatch) (hop : S .overflow) (op : Arithmetic)
    {x y : Operand} (hx : Confined S (x.select d : m (Json ⊕ Selection ν)))
    (hy : Confined S (y.select d : m (Json ⊕ Selection ν))) :
    Confined S ((Path.arithmetic op x y).select d : m (Selection ν)) := by
  rw [Path.select]
  refine .bind hx ?_
  intro left
  refine .bind hy ?_
  intro right
  refine .bind (confined_pairUp hS left right) ?_
  intro pairs
  refine .bind (confined_applyAll hS hop [] pairs) ?_
  intro results
  exact confined_aloneAll .this results

theorem confined_substitute (hS : S .mismatch) {pattern : Pattern} {replacement : String}
    (h : ∀ e : EvalError, e.arisesAt (.substitute pattern replacement) = true → S e)
    (d : Datum ν) :
    Confined S ((Path.substitute pattern replacement).select d : m (Selection ν)) := by
  rw [Path.select]
  refine .bind d.confined_value ?_
  intro v
  refine .bind (.result ?_) (confined_aloneAll .this)
  intro e he
  obtain rfl | he := error_of_substitutedIn he
  · exact hS
  · exact h e he

/-- The data that are found compare with a literal, or do not. -/
theorem confined_compared (hS : S .mismatch) {target : Path} {op : Comparison} {literal : Literal}
    (htarget : Confined S (target.select d : m (Selection ν)))
    (h : ∀ e : EvalError, e.arisesIn (.compared target op literal) = true → S e) :
    Confined S ((Condition.compared target op literal).meets d : m Bool) := by
  rw [Condition.meets]
  refine .bind htarget ?_
  intro found
  refine .ite (.pure _) ?_
  refine .bind (found.confined_list hS) ?_
  intro ds
  refine .bind (confined_keep ?_ ds) fun _ => .pure _
  intro d
  refine .bind (d.confined_read hS) ?_
  intro v
  refine .result ?_
  intro e he
  obtain rfl | he := error_of_holds target he
  · exact hS
  · exact h e he

end SingleSteps

/-! ## Paths -/

/-- Only errors of a set are held. -/
def Within (S : EvalError → Prop) (held : EvalError → Bool) : Prop := ∀ e, held e = true → S e

namespace Within

variable {S : EvalError → Prop} {a b : EvalError → Bool}

theorem left (h : Within S fun e => a e || b e) : Within S a := by
  intro e he
  exact h e (Bool.or_eq_true_iff.mpr (.inl he))

theorem right (h : Within S fun e => a e || b e) : Within S b := by
  intro e he
  exact h e (Bool.or_eq_true_iff.mpr (.inr he))

end Within

section Evaluation

variable {S : EvalError → Prop}

mutual

/-- **Paths are confined**: selecting ends in no errors but failures to apply and those that the
path holds. -/
theorem Path.confined_select (hS : S .mismatch) {m : Type → Type} {ν : Type} [Monad m]
    [Memory m ν] :
    (p : Path) → Within S (Path.mayEndIn · p) → ∀ d : Datum ν,
      Confined S (p.select d : m (Selection ν))
  | .root, _, d => .bind d.confined_root fun _ => .pure _
  | .this, _, d => .bind d.confined_settle fun _ => .pure _
  | .parent, _, d => .bind d.confined_parent fun _ => .pure _
  | .len, _, d => .bind d.confined_value fun v => confined_aloneAll .len (lengthOf v)
  | .keys, _, d => .bind d.confined_value fun v => confined_aloneAll .keys (keysOf v)
  | .step, _, d => by
    rw [Path.select]
    refine .bind d.confined_settle ?_
    intro d
    exact .bind (d.confined_below _) fun _ => .pure _
  | .str, _, d => by
    rw [Path.select]
    refine .bind d.confined_value ?_
    intro v
    refine .bind (.result fun e he => error_of_displayOf he ▸ hS) ?_
    intro text
    exact .bind (Datum.confined_alone .this _) fun _ => .pure _
  | .fields names, _, d => confined_fields names d
  | .index n, h, d => by
    refine confined_index hS ?_ d
    intro hn
    exact h .indexOutOfRange (decide_eq_true hn)
  | .slice start stop stride, _, d => by
    rw [Path.select]
    refine .bind d.confined_settle ?_
    intro d
    exact .bind (confined_selectSection hS start stop stride d) fun _ => .pure _
  | .child l r, h, d =>
    confined_child hS (l.confined_select hS h.left.right d) (r.confined_select hS h.right)
  | .descendants l r, h, d =>
    confined_descendants hS (l.confined_select hS h.left.right d) (r.confined_select hS h.right)
  | .where l r, h, d =>
    confined_where hS (l.confined_select hS h.left.right d) (r.confined_select hS h.right)
  | .whereNot l r, h, d =>
    confined_whereNot hS (l.confined_select hS h.left.right d) (r.confined_select hS h.right)
  | .union l r, h, d =>
    confined_union hS (l.confined_select hS h.left.right d) (r.confined_select hS h.right d)
  | .intersect l r, h, d => by
    rw [Path.select]
    exact .error (h .unsupported rfl)
  | .filter conditions, h, d => by
    have hall := h.right (a := fun e => e.arisesAt (.filter conditions))
    exact confined_filter (confined_meetsAll hS conditions hall) d
  | .sorted keys, h, d => by
    have hkeys := h.right (a := fun e => e.arisesAt (.sorted keys))
    exact confined_sorted hS (confined_lessByKeys hS keys hkeys) d
  | .arithmetic op x y, h, d =>
    confined_arithmetic hS (h .overflow rfl) op (x.confined_select hS h.left.right d)
      (y.confined_select hS h.right d)
  | .split separator segment limit, _, d =>
    .bind d.confined_value fun v => confined_aloneAll .this (partsOf separator segment limit v)
  | .substitute pattern replacement, h, d => confined_substitute hS h d
termination_by structural p => p

/-- So is what an operand gives. -/
theorem Operand.confined_select (hS : S .mismatch) {m : Type → Type} {ν : Type} [Monad m]
    [Memory m ν] :
    (x : Operand) → Within S (fun e => x.anywhere e.arisesAt e.arisesIn) → ∀ d : Datum ν,
      Confined S (x.select d : m (Json ⊕ Selection ν))
  | .path p, h, d => by
    rw [Operand.select]
    exact .bind (p.confined_select hS h d) fun _ => .pure _
  | .literal x, _, d => by
    rw [Operand.select]
    exact .pure _
termination_by structural x => x

/-- So is whether a condition holds. -/
theorem Condition.confined_meets (hS : S .mismatch) {m : Type → Type} {ν : Type} [Monad m]
    [Memory m ν] :
    (c : Condition) → Within S (fun e => c.anywhere e.arisesAt e.arisesIn) → ∀ d : Datum ν,
      Confined S (c.meets d : m Bool)
  | .found target, h, d => by
    rw [Condition.meets]
    have htarget := h.right (a := fun e => e.arisesIn (.found target))
    exact .bind (target.confined_select hS htarget d) fun _ => .pure _
  | .compared target op literal, h, d =>
    confined_compared hS (target.confined_select hS h.right d) h.left
termination_by structural c => c

/-- So is whether all conditions hold. -/
theorem confined_meetsAll (hS : S .mismatch) {m : Type → Type} {ν : Type} [Monad m] [Memory m ν] :
    (conditions : List Condition) →
      Within S (fun e => anywhereInAll e.arisesAt e.arisesIn conditions) → ∀ v : Json,
      Confined S (meetsAll conditions v : m Bool)
  | [], _, v => by
    rw [meetsAll]
    exact .pure _
  | c :: cs, h, v => by
    rw [meetsAll]
    refine .bind (.lift (.run ?_)) ?_
    · intro m ν _ _
      refine .bind (Datum.confined_alone .this v) ?_
      intro d
      exact c.confined_meets hS h.left d
    · intro first
      exact .bind (confined_meetsAll hS cs h.right v) fun _ => .pure _
termination_by structural conditions => conditions

/-- So is whether one item comes before another. -/
theorem confined_lessByKeys (hS : S .mismatch) {m : Type → Type} {ν : Type} [Monad m]
    [Memory m ν] :
    (keys : List SortKey) →
      Within S (fun e => anywhereInKeys e.arisesAt e.arisesIn keys) → ∀ x y : Datum ν,
      Confined S (lessByKeys keys x y : m Bool)
  | [], _, x, y => by
    rw [lessByKeys]
    exact .pure _
  | .by path descending :: keys, h, x, y => by
    have hrest := confined_lessByKeys (m := m) hS keys h.right x y
    rw [lessByKeys]
    refine .bind (path.confined_select hS h.left x) ?_
    intro l
    refine .bind (path.confined_select hS h.left y) ?_
    intro r
    refine .bind (confined_singleValues hS l r) ?_
    intro values
    split
    · exact hrest
    · refine .ite hrest ?_
      exact .bind (.lift (confined_lessValue hS _ _)) fun _ => .pure _
termination_by structural keys => keys

end

/-- **Evaluation is confined**: a path that is evaluated on a document fails to apply, or ends in an
error that it holds. -/
theorem error_of_evaluate {p : Path} {document : Json} {e : EvalError}
    (h : evaluate p document = .error e) : e = .mismatch ∨ p.mayEndIn e = true := by
  refine Confined.plain (S := fun e => e = .mismatch ∨ p.mayEndIn e = true) (.run ?_) h
  intro m ν _ _
  refine .bind (Datum.confined_alone .document document) ?_
  intro d
  refine .bind (p.confined_select (.inl rfl) (fun e he => .inr he) d) ?_
  intro found
  refine .bind (found.confined_list (.inl rfl)) ?_
  intro ds
  exact .mapM (Datum.confined_read (.inl rfl)) ds

end Evaluation

/-! ## Predicates -/

/-- A predicate ends in the verdict on the evaluation of its expression, made to go through the
array around the document. -/
theorem result_hasMatch_of_compile (expression : String) (document : Json) :
    (hasMatch expression document).result = compile expression >>= fun p =>
      verdict expression (evaluate (address p) (.array [document])) := by
  rw [result_hasMatch, compilePredicate]
  cases compile expression <;> rfl

/-- That evaluation ends in no errors either but failures to apply and those that the path holds. -/
theorem error_of_evaluate_address {p : Path} {document : Json} {e : EvalError}
    (h : evaluate (address p) document = .error e) : e = .mismatch ∨ p.mayEndIn e = true := by
  rw [← mayEndIn_address]
  exact error_of_evaluate h

end WebhookRelay.Query
