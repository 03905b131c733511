import WebhookRelay.Query.Memory
import WebhookRelay.Text.Integer

/-!
# Places in a document

A datum is the cell of a value together with the way that led to it: the last step, and the cells
passed on the way from the top.

- `Step`: the steps; `Step.text` writes one.
- `Datum`: a value and how it was reached.
- `Selection`: what a path gives.
-/

namespace WebhookRelay.Query

/-- How a value was reached. -/
inductive Step where
  /-- It is the document that a query was given, before any step. -/
  | document
  /-- It is the place above the top, where there is no value. -/
  | absent
  | root
  | this
  | field (name : String)
  | item (index : Int)
  | len
  | keys
  | path
deriving DecidableEq, Repr

/-- Does a name have to be quoted in the text of a step? -/
def isQuotedName (name : String) : Bool :=
  name.toList.any ['*', '.', '[', ']', '(', ')', '$', ',', ':', '|', '&', '~'].contains

/-- The text of a step. -/
def Step.text : Step → String
  | .document | .absent | .this => "\x60this\x60"
  | .root => "$"
  | .field name => if isQuotedName name then "'" ++ name ++ "'" else name
  | .item index => "[" ++ String.ofList (Text.showInteger index) ++ "]"
  | .len => "\x60len\x60"
  | .keys => "\x60keys\x60"
  | .path => "\x60path\x60"

/-- The cell of a value, the step that led to it, and the cells above it with their steps, nearest
first. -/
structure Datum (ν : Type) where
  cell : ν
  step : Step
  above : List (ν × Step)
deriving Repr

namespace Datum

variable {m : Type → Type} {ν : Type} [Monad m] [Memory m ν]

/-- A value that was reached by a step, with nothing above it. -/
def alone (step : Step) (v : Json) : m (Datum ν) :=
  return ⟨← Memory.store v, step, []⟩

/-- A document that nothing has been done with. -/
def document : Json → m (Datum ν) := alone .document

/-- A value without a history. -/
def fresh : Json → m (Datum ν) := alone .this

/-- The place above the top. -/
def absent : m (Datum ν) := alone .absent .null

/-- The value of a datum; above the top it counts as null. -/
def value (d : Datum ν) : m Json := Memory.load d.cell

/-- The value of a datum; above the top there is none. -/
def read (d : Datum ν) : m Json :=
  match d.step with
  | .absent => Memory.pure (.error .mismatch)
  | _ => d.value

/-- The same place as something that has been reached. A document, and what is above the top, is
reached in a new cell every time. -/
def settle (d : Datum ν) : m (Datum ν) :=
  match d.step with
  | .document | .absent => do fresh (← d.value)
  | _ => return d

/-- Places directly below this one, given by their steps and values. -/
def below (d : Datum ν) : List (Step × Json) → m (List (Datum ν))
  | [] => return []
  | (step, v) :: rest => do
    let first : Datum ν := ⟨← Memory.store v, step, (d.cell, d.step) :: d.above⟩
    return first :: (← d.below rest)

/-- The place above. -/
def parent (d : Datum ν) : m (Datum ν) :=
  match d.above with
  | [] => absent
  | (cell, step) :: above => return ⟨cell, step, above⟩

/-- The top of the document. -/
def root (d : Datum ν) : m (Datum ν) := do
  let top := (d.above.getLast?.map Prod.fst).getD d.cell
  alone .root (← Memory.load top)

end Datum

/-- What a path gives: a list of data. What cannot be sorted gives itself, and not a list: it counts
as something, but it has no items to go on with. -/
inductive Selection (ν : Type) where
  | data (ds : List (Datum ν))
  | itself (d : Datum ν)

namespace Selection

variable {ν : Type}

/-- Is nothing selected? -/
def isEmpty : Selection ν → Bool
  | .data ds => ds.isEmpty
  | .itself _ => false

/-- The data to go on with. -/
def list {m : Type → Type} [Monad m] [Memory m ν] : Selection ν → m (List (Datum ν))
  | .data ds => return ds
  | .itself _ => Memory.pure (.error .mismatch)

end Selection

end WebhookRelay.Query
