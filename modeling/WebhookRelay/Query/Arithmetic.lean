import WebhookRelay.Json.Order
import WebhookRelay.Query.Datum
import WebhookRelay.Query.Path

/-!
# Operations on values

Numbers are added, subtracted and multiplied; an integer meets a floating-point number as one, and
the booleans count as zero and one. Texts and arrays can be joined, and repeated.

- `Arithmetic.apply`: the result of an operation, or nothing if it does not apply.
- `Arithmetic.applyAll`: the results on pairs of arguments.
-/

namespace WebhookRelay.Query

/-- An integer as a floating-point number. -/
def floatOfInt (n : Int) : Except EvalError Binary64 :=
  match Binary64.ofInt? n with
  | some x => .ok x
  | none => .error .overflow

/-- A number as a floating-point one. -/
def floatOfNumber : Json.Number → Except EvalError Binary64
  | .int n => floatOfInt n
  | .float x => .ok x

namespace Arithmetic

/-- The operation on integers. -/
def onInts : Arithmetic → Int → Int → Int
  | .add => (· + ·)
  | .sub => (· - ·)
  | .mul => (· * ·)

/-- The operation on floating-point numbers. -/
def onFloats : Arithmetic → Binary64 → Binary64 → Binary64
  | .add => Binary64.add
  | .sub => Binary64.sub
  | .mul => Binary64.mul

/-- The operation on numbers. -/
def onNumbers (op : Arithmetic) : Json.Number → Json.Number → Except EvalError Json
  | .int m, .int n => .ok (.int (op.onInts m n))
  | x, y => do
    let x ← floatOfNumber x
    let y ← floatOfNumber y
    return .float (op.onFloats x y)

/-- How often to repeat: a count has to fit in sixty-four bits, and a negative one is zero. -/
def repetitions (n : Int) : Except EvalError Nat :=
  if n < -0x8000000000000000 || 0x8000000000000000 ≤ n then .error .overflow else .ok n.toNat

/-- A text or an array repeated; other values cannot be. -/
def repeated (v : Json) (n : Int) : Except EvalError (Option Json) :=
  match v with
  | .string s => do
    let count ← repetitions n
    return some (.string (String.join (List.replicate count s)))
  | .array items => do
    let count ← repetitions n
    return some (.array (List.replicate count items).flatten)
  | _ => .ok none

/-- The result of an operation, if it applies to the values. -/
def apply (op : Arithmetic) (x y : Json) : Except EvalError (Option Json) :=
  match x.number?, y.number? with
  | some m, some n => (op.onNumbers m n).map some
  | none, some (.int n) => if op = .mul then repeated x n else .ok none
  | some (.int n), none => if op = .mul then repeated y n else .ok none
  | _, _ =>
    match op, x, y with
    | .add, .string s, .string t => .ok (some (.string (s ++ t)))
    | .add, .array xs, .array ys => .ok (some (.array (xs ++ ys)))
    | _, _, _ => .ok none

end Arithmetic

/-- What an operation is applied to: a value that is written out, or a datum. -/
abbrev Argument (ν : Type) : Type := Json ⊕ Datum ν

variable {m : Type → Type} {ν : Type} [Monad m] [Memory m ν]

/-- The value of an argument. -/
def Argument.read : Argument ν → m Json
  | .inl v => return v
  | .inr d => d.read

/-- The results of an operation on pairs of arguments, onto those so far, latest first; all are
dropped if it does not apply to one of the pairs. -/
def Arithmetic.applyAll (op : Arithmetic) (done : List Json) :
    List (Argument ν × Argument ν) → m (List Json)
  | [] => return done.reverse
  | (l, r) :: rest => do
    match ← Memory.pure (op.apply (← l.read) (← r.read)) with
    | some v => op.applyAll (v :: done) rest
    | none => return []

end WebhookRelay.Query
