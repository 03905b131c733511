import WebhookRelay.Proofs.Query.Addressing

/-!
# Errors that a path holds

Most steps of a path fail in one way only: they do not apply to the value that they meet. A few can
end in another error, and whether they can is to be seen from the path itself, without a document.

- `Path.anywhere`: does a test hold somewhere in a path, its conditions and sort keys included?
- `EvalError.arisesAt`, `EvalError.arisesIn`: the errors that single steps and conditions can end
  in.
- `Path.mayEndIn`: can some step or condition of a path end in an error?
- `error_of_itemOf`, `error_of_substitutedIn`, `error_of_holds`, `error_of_apply`: the single steps
  end in no other errors.
- `mayEndIn_address`: going through the array adds no error, and takes none away.
-/

namespace WebhookRelay.Query

/-! ## Looking into a path -/

mutual

/-- Does a test hold for a path or for a path in it, wherever it stands? The conditions have a test
of their own. -/
def Path.anywhere (step : Path → Bool) (condition : Condition → Bool) : Path → Bool
  | .child l r =>
    step (.child l r) || l.anywhere step condition || r.anywhere step condition
  | .descendants l r =>
    step (.descendants l r) || l.anywhere step condition || r.anywhere step condition
  | .where l r =>
    step (.where l r) || l.anywhere step condition || r.anywhere step condition
  | .whereNot l r =>
    step (.whereNot l r) || l.anywhere step condition || r.anywhere step condition
  | .union l r =>
    step (.union l r) || l.anywhere step condition || r.anywhere step condition
  | .intersect l r =>
    step (.intersect l r) || l.anywhere step condition || r.anywhere step condition
  | .arithmetic op l r =>
    step (.arithmetic op l r) || l.anywhere step condition || r.anywhere step condition
  | .filter conditions => step (.filter conditions) || anywhereInAll step condition conditions
  | .sorted keys => step (.sorted keys) || anywhereInKeys step condition keys
  | p => step p
termination_by structural p => p

/-- Does a test hold somewhere in an operand? -/
def Operand.anywhere (step : Path → Bool) (condition : Condition → Bool) : Operand → Bool
  | .path p => p.anywhere step condition
  | .literal _ => false
termination_by structural operand => operand

/-- Does a test hold for a condition, or somewhere in its path? -/
def Condition.anywhere (step : Path → Bool) (condition : Condition → Bool) : Condition → Bool
  | .found target => condition (.found target) || target.anywhere step condition
  | .compared target op literal =>
    condition (.compared target op literal) || target.anywhere step condition
termination_by structural c => c

/-- Does a test hold somewhere in one of the conditions? -/
def anywhereInAll (step : Path → Bool) (condition : Condition → Bool) : List Condition → Bool
  | [] => false
  | c :: cs => c.anywhere step condition || anywhereInAll step condition cs
termination_by structural conditions => conditions

/-- Does a test hold somewhere in the path of one of the sort keys? -/
def anywhereInKeys (step : Path → Bool) (condition : Condition → Bool) : List SortKey → Bool
  | [] => false
  | .by path _ :: keys => path.anywhere step condition || anywhereInKeys step condition keys
termination_by structural keys => keys

end

/-! ## Errors of single steps -/

namespace EvalError

/-- Can a step end in the error by itself, whatever its parts do? That it does not apply to a value
is not asked, since nearly every step can end so. -/
def arisesAt (e : EvalError) : Path → Bool
  | .index n => e = .indexOutOfRange && n < 0
  | .intersect _ _ => e = .unsupported
  | .arithmetic _ _ _ => e = .overflow
  | .substitute pattern replacement =>
    match Pattern.Replacement.read pattern replacement with
    | .error .malformed => e = .badPattern
    | .error .unknownName => e = .unknownGroup
    | .ok _ => false
  | _ => false

/-- Can the comparison of a condition end in the error? Infinity is no integer, and a text may be no
pattern. -/
def arisesIn (e : EvalError) : Condition → Bool
  | .compared _ _ (.int _) => e = .overflow
  | .compared _ _ (.bool _) => e = .overflow
  | .compared _ .matches (.text t) =>
    match Pattern.read t with
    | .error broken => e = Comparison.errorOfPattern broken
    | .ok _ => false
  | _ => false

end EvalError

/-- Can some step or condition of a path end in an error? -/
def Path.mayEndIn (e : EvalError) (p : Path) : Bool :=
  p.anywhere e.arisesAt e.arisesIn

example : (Path.child .root (.index (-2))).mayEndIn .indexOutOfRange = true := by decide

/-! ## What single steps end in -/

section SingleSteps

/-- What ends in an error does so in its first part, or in the rest after a value. -/
theorem error_of_bind {ε α β : Type} {x : Except ε α} {f : α → Except ε β} {e : ε}
    (h : (x >>= f) = .error e) : x = .error e ∨ ∃ a, x = .ok a ∧ f a = .error e := by
  cases x with
  | error e' =>
    left
    cases h
    rfl
  | ok a => exact .inr ⟨a, rfl, h⟩

variable {e : EvalError} {v : Json}

/-- A number from the start has an item, if it is not too large. -/
theorem error_of_itemOf {n : Int} (h : itemOf n v = .error e) :
    e = .mismatch ∨ e = .indexOutOfRange ∧ n < 0 := by
  unfold itemOf at h
  grind

theorem error_of_asArray (h : asArray v = .error e) : e = .mismatch := by
  unfold asArray at h
  split at h <;> cases h
  rfl

theorem error_of_sectionOf {start stop stride : Option Int} {items : List Json}
    (h : sectionOf start stop stride items = .error e) : e = .mismatch := by
  unfold sectionOf at h
  obtain hindices | ⟨_, _, h⟩ := error_of_bind h
  · unfold sectionIndices at hindices
    grind
  · cases h

theorem error_of_lessValue {x y : Json} (h : lessValue x y = .error e) : e = .mismatch := by
  unfold lessValue at h
  split at h <;> cases h
  rfl

theorem error_of_displayOf (h : displayOf v = .error e) : e = .mismatch := by
  unfold displayOf at h
  split at h <;> cases h
  rfl

theorem error_of_substitutedIn {pattern : Pattern} {replacement : String}
    (h : substitutedIn pattern replacement v = .error e) :
    e = .mismatch ∨ e.arisesAt (.substitute pattern replacement) = true := by
  unfold substitutedIn at h
  cases hread : Pattern.Replacement.read pattern replacement with
  | error problem =>
    right
    rw [hread] at h
    cases problem <;> cases h <;> simp only [EvalError.arisesAt, hread, decide_true]
  | ok r =>
    left
    rw [hread] at h
    cases v <;> cases h <;> rfl

theorem error_of_integer? (h : Comparison.integer? v = .error e) :
    e = .mismatch ∨ e = .overflow := by
  unfold Comparison.integer? at h
  grind

/-- A number compares with an integer unless it is too large to be one. -/
theorem error_of_holdsInt {op : Comparison} {n : Int} (h : op.holdsInt v n = .error e) :
    e = .mismatch ∨ e = .overflow := by
  unfold Comparison.holdsInt at h
  obtain hv | ⟨m, _, h⟩ := error_of_bind h
  · exact error_of_integer? hv
  · cases m <;> cases h

theorem error_of_holdsFloat {op : Comparison} {x : Binary64} (h : op.holdsFloat v x = .error e) :
    e = .mismatch := by
  unfold Comparison.holdsFloat at h
  split at h <;> cases h <;> rfl

/-- Besides not applying, a comparison ends in an error only if its literal is a number or its text
is no pattern. -/
theorem error_of_holds (target : Path) {op : Comparison} {literal : Literal}
    (h : op.holds v literal = .error e) :
    e = .mismatch ∨ e.arisesIn (.compared target op literal) = true := by
  cases literal with
  | int n =>
    have he := error_of_holdsInt h
    simpa only [EvalError.arisesIn, decide_eq_true_eq] using he
  | bool b =>
    have he := error_of_holdsInt h
    simpa only [EvalError.arisesIn, decide_eq_true_eq] using he
  | float x => exact .inl (error_of_holdsFloat h)
  | text t =>
    replace h : op.holdsText v t = .error e := h
    unfold Comparison.holdsText at h
    split at h
    · -- The text is read as a pattern.
      split at h
      · cases h
      · rename_i broken hread
        cases h
        right
        simp only [EvalError.arisesIn, hread, decide_true]
    all_goals cases h
    exact .inl rfl

theorem error_of_floatOfNumber {x : Json.Number} (h : floatOfNumber x = .error e) :
    e = .overflow := by
  cases x with
  | int n =>
    replace h : floatOfInt n = .error e := h
    unfold floatOfInt at h
    split at h <;> cases h
    rfl
  | float x => cases h

theorem error_of_onNumbers {op : Arithmetic} {x y : Json.Number}
    (h : op.onNumbers x y = .error e) : e = .overflow := by
  unfold Arithmetic.onNumbers at h
  split at h
  · cases h
  · obtain hx | ⟨_, _, h⟩ := error_of_bind h
    · exact error_of_floatOfNumber hx
    · obtain hy | ⟨_, _, h⟩ := error_of_bind h
      · exact error_of_floatOfNumber hy
      · cases h

theorem error_of_repetitions {n : Int} (h : Arithmetic.repetitions n = .error e) :
    e = .overflow := by
  unfold Arithmetic.repetitions at h
  split at h <;> cases h
  rfl

theorem error_of_repeated {n : Int} (h : Arithmetic.repeated v n = .error e) :
    e = .overflow := by
  unfold Arithmetic.repeated at h
  split at h
  · obtain h | ⟨_, _, h⟩ := error_of_bind h
    · exact error_of_repetitions h
    · cases h
  · obtain h | ⟨_, _, h⟩ := error_of_bind h
    · exact error_of_repetitions h
    · cases h
  · cases h

/-- An operation that does not apply has no result, and that is no error. -/
theorem error_of_apply {op : Arithmetic} {x y : Json} (h : op.apply x y = .error e) :
    e = .overflow := by
  unfold Arithmetic.apply at h
  split at h
  · rename_i m n _ _
    cases hresult : op.onNumbers m n with
    | ok w =>
      rw [hresult] at h
      cases h
    | error e' =>
      rw [hresult] at h
      cases h
      exact error_of_onNumbers hresult
  · split at h
    · exact error_of_repeated h
    · cases h
  · split at h
    · exact error_of_repeated h
    · cases h
  · split at h <;> cases h

end SingleSteps
/-! ## Going through the array -/

/-- A child ends in no errors of its own, so only its parts count. -/
theorem mayEndIn_child (e : EvalError) (l r : Path) :
    (Path.child l r).mayEndIn e = (l.mayEndIn e || r.mayEndIn e) := rfl

mutual

/-- The path that goes through the array can end in the same errors. -/
theorem mayEndIn_address (e : EvalError) : (p : Path) → (address p).mayEndIn e = p.mayEndIn e
  | .child l r => by
    cases h : Path.isOnRoot (.child l r) with
    | false =>
      rw [Path.address_child h, mayEndIn_child, mayEndIn_child, mayEndIn_address e l,
        mayEndIn_address e r]
    | true => rw [Path.address_of_isOnRoot h]
  | .descendants l r | .where l r | .whereNot l r | .union l r | .intersect l r => by
    have hl : (address l).anywhere _ _ = l.anywhere _ _ := mayEndIn_address e l
    have hr : (address r).anywhere _ _ = r.anywhere _ _ := mayEndIn_address e r
    rw [address, Path.mayEndIn, Path.mayEndIn, Path.anywhere, Path.anywhere, hl, hr]
    rfl
  | .arithmetic op l r => by
    have hl := anywhere_addressOperand e l
    have hr := anywhere_addressOperand e r
    rw [address, Path.mayEndIn, Path.mayEndIn, Path.anywhere, Path.anywhere, hl, hr]
    rfl
  | .root | .this | .parent | .len | .keys | .step | .str | .fields _ | .index _ | .slice _ _ _
  | .filter _ | .sorted _ | .split _ _ _ | .substitute _ _ => rfl
termination_by structural p => p

/-- So can the operand. -/
theorem anywhere_addressOperand (e : EvalError) :
    (x : Operand) → (addressOperand x).anywhere e.arisesAt e.arisesIn =
      x.anywhere e.arisesAt e.arisesIn
  | .path p => mayEndIn_address e p
  | .literal _ => rfl
termination_by structural x => x

end

end WebhookRelay.Query
