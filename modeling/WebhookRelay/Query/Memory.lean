import WebhookRelay.Json

/-!
# Cells for values

A path can change the value of a place: to choose among the members of an object by conditions turns
the object into the array of its values, for everyone who comes to the same place later. So an
evaluation keeps each value in a cell.

- `EvalError`: why a path gives nothing at all.
- `Memory`: a way to keep values in cells. In the plain one a cell is the value, and a change makes
  another cell; in the shared one (`Cells`) a change is seen through every copy of the cell.
- `Memory.run`: the result of an evaluation in one of the two.
-/

namespace WebhookRelay.Query

/-- Why a path cannot be evaluated. -/
inductive EvalError where
  /-- A step does not apply to the sort of value that it meets. -/
  | mismatch
  /-- The path joins two others by `&`. -/
  | unsupported
  /-- There is no item with that number from the end. -/
  | indexOutOfRange
  /-- A number is too large for what is to be done with it. -/
  | overflow
  /-- A pattern or a replacement cannot be read. -/
  | badPattern
  /-- A replacement names a group that the pattern does not have. -/
  | unknownGroup
deriving DecidableEq, Repr

/-- A way to keep values in cells of the type `ν` during an evaluation. -/
class Memory (m : Type → Type) (ν : outParam Type) where
  /-- A new cell with a value. -/
  store : Json → m ν
  /-- The value in a cell. -/
  load : ν → m Json
  /-- A cell with another value put into it. -/
  replace : ν → Json → m ν
  /-- A result that needs no cells. -/
  pure : {α : Type} → Except EvalError α → m α

namespace Memory

/-- The plain memory: a cell is the value that it keeps. -/
instance plain : Memory (Except EvalError) Json where
  store := .ok
  load := .ok
  replace _ v := .ok v
  pure result := result

/-- An evaluation with numbered cells; those that are not in the array keep nothing. -/
abbrev Cells : Type → Type := StateT (Array Json) (Except EvalError)

/-- The shared memory: a cell is a number. -/
instance shared : Memory Cells Nat where
  store v := modifyGet fun cells => (cells.size, cells.push v)
  load cell := return (← get).getD cell .null
  replace cell v := do
    modify (·.setIfInBounds cell v)
    return cell
  pure result := StateT.lift result

/-- The result of an evaluation, in the shared memory if places are shared. -/
def run {α : Type} (sharing : Bool)
    (body : {m : Type → Type} → {ν : Type} → [Monad m] → [Memory m ν] → m α) :
    Except EvalError α :=
  if sharing then StateT.run' (body : Cells α) #[] else (body : Except EvalError α)

end Memory

end WebhookRelay.Query
