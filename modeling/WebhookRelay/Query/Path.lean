import WebhookRelay.Binary64
import WebhookRelay.Pattern

/-!
# Paths

A path describes how to get from a place in a document to other places in it.

- `Path`: the paths, with the conditions and operands inside them.
- `Comparison`, `Arithmetic`: the operators, with their spelling.
- `Path.any`: does a test hold for a path or for a path in it?
- `Path.usesIntersect`: does a path join two others by `&`?
- `Path.sharesPlaces`: can a path come again to a place whose value it has changed?
-/

namespace WebhookRelay.Query

/-- The comparisons of a condition. -/
inductive Comparison where
  | matches
  | equal
  | assign
  | notEqual
  | less
  | lessEqual
  | greater
  | greaterEqual
deriving DecidableEq, Repr

/-- The spelling of a comparison. -/
def Comparison.text : Comparison → String
  | .matches => "=~"
  | .equal => "=="
  | .assign => "="
  | .notEqual => "!="
  | .less => "<"
  | .lessEqual => "<="
  | .greater => ">"
  | .greaterEqual => ">="

/-- The operations on values. -/
inductive Arithmetic where
  | add
  | sub
  | mul
deriving DecidableEq, Repr

/-- The spelling of an operation. -/
def Arithmetic.text : Arithmetic → String
  | .add => "+"
  | .sub => "-"
  | .mul => "*"

/-- The values that are written out in an expression. -/
inductive Literal where
  | int (n : Int)
  | float (x : Binary64)
  | bool (b : Bool)
  | text (s : String)
deriving DecidableEq, Repr

mutual

/-- A path. -/
inductive Path where
  /-- The top of the document. -/
  | root
  /-- The place itself. -/
  | this
  /-- The place around it. -/
  | parent
  /-- The length of the value. -/
  | len
  /-- The keys of the object. -/
  | keys
  /-- The last step that led to the place, as a text. -/
  | step
  /-- The value as a text. -/
  | str
  /-- The members with these names; the name `*` stands for all. -/
  | fields (names : List String)
  /-- One item of an array; negative numbers count from the end. -/
  | index (n : Int)
  /-- The items of a section of an array. -/
  | slice (start stop stride : Option Int)
  /-- The second path from every place that the first one gives. -/
  | child (left right : Path)
  /-- The second path from every place that the first one gives, and from every place below. -/
  | descendants (left right : Path)
  /-- The places of the first path from which the second gives something. -/
  | where (left right : Path)
  /-- The places of the first path from which the second gives nothing. -/
  | whereNot (left right : Path)
  /-- The places of both paths. -/
  | union (left right : Path)
  /-- The places that both paths give. -/
  | intersect (left right : Path)
  /-- The items that satisfy all conditions. -/
  | filter (conditions : List Condition)
  /-- The items in the order of the keys, or in their own order if there are none. -/
  | sorted (keys : List SortKey)
  /-- The results of an operation. -/
  | arithmetic (op : Arithmetic) (left right : Operand)
  /-- The parts of a text, or one of them, after at most `limit` cuts; a negative limit is none. -/
  | split (separator : String) (segment : Option String) (limit : Int)
  /-- The text with whatever a pattern fits replaced. -/
  | substitute (pattern : Pattern) (replacement : String)

/-- A condition on a place. -/
inductive Condition where
  /-- The path gives something. -/
  | found (target : Path)
  /-- The path gives a value that compares with the literal. -/
  | compared (target : Path) (op : Comparison) (literal : Literal)

/-- What an operation applies to. -/
inductive Operand where
  | path (p : Path)
  | literal (l : Literal)

/-- A key to sort by. -/
inductive SortKey where
  | by (path : Path) (descending : Bool)

end

instance : Inhabited Path := ⟨.root⟩

namespace Path

/-- A path beside an operator: a single name stands for the text itself. -/
def operand : Path → Operand
  | .fields [name] => .literal (.text name)
  | p => .path p

mutual

/-- Does a test hold for a path or for a path in it? Conditions and sort keys are not
looked into. -/
def any (test : Path → Bool) : Path → Bool
  | .child l r => test (.child l r) || l.any test || r.any test
  | .descendants l r => test (.descendants l r) || l.any test || r.any test
  | .where l r => test (.where l r) || l.any test || r.any test
  | .whereNot l r => test (.whereNot l r) || l.any test || r.any test
  | .union l r => test (.union l r) || l.any test || r.any test
  | .intersect l r => test (.intersect l r) || l.any test || r.any test
  | .arithmetic op l r => test (.arithmetic op l r) || anyInOperand test l || anyInOperand test r
  | p => test p

/-- Does a test hold for a path in an operand? -/
def anyInOperand (test : Path → Bool) : Operand → Bool
  | .path p => p.any test
  | .literal _ => false

end

/-- Does a path join two others by `&`? -/
def usesIntersect (p : Path) : Bool :=
  p.any fun | .intersect _ _ => true | _ => false

/-- Does a path choose items by conditions? -/
def usesFilter (p : Path) : Bool :=
  p.any fun | .filter _ => true | _ => false

/-- Does a path go to the place itself or around it, and so reach one place twice? -/
def returns (p : Path) : Bool :=
  p.any fun | .this | .parent => true | _ => false

/-- Can a path change the value of a place and then come to the same place again? Conditions turn
objects into arrays. -/
def sharesPlaces (p : Path) : Bool :=
  p.usesFilter && p.returns

end Path

/-- The path of a condition. -/
def Condition.target : Condition → Path
  | .found target => target
  | .compared target _ _ => target

/-- The path of a sort key. -/
def SortKey.path : SortKey → Path
  | .by path _ => path

end WebhookRelay.Query
