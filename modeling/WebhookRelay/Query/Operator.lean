import WebhookRelay.Pattern.Reader
import WebhookRelay.Query.Path
import WebhookRelay.Text.Integer

/-!
# Named operators

Between back quotes stand operators that have a name, some of them with arguments in parentheses.
The form of the arguments is given by a pattern; what follows the closing parenthesis is ignored.

- `readOperator`: the path of a named operator.
-/

namespace WebhookRelay.Query

/-- What can be wrong with a named operator. -/
inductive OperatorError where
  /-- There is no operator of that name. -/
  | unknown
  /-- The arguments do not have the form they should have. -/
  | badDefinition
  /-- The pattern among the arguments cannot be read. -/
  | badPattern (e : Pattern.ReadError)
  /-- A number among the arguments has too many digits. -/
  | overlongInteger
deriving DecidableEq, Repr

/-- A separator with or without quotes, the part to take, and the greatest number of cuts. -/
def splitForm : String :=
  "split\\((?:\\s+)?(?:'(.+)'|\"(.+)\"|(.+))(?:\\s+)?,(?:\\s+)?(-?\\d+|\\*)(?:\\s+)?,(?:\\s+)?" ++
    "(-?\\d+)(?:\\s+)?\\)"

/-- A pattern between slashes, and a replacement. -/
def substituteForm : String := "sub\\(/(.*)/,\\s+(.*)\\)"

/-- No arguments. -/
def strForm : String := "str\\(\\)"

/-- The arguments of an operator that has the given form: what the groups of the form catch. -/
def arguments? (form name : String) : Option (Nat → Option (List Char)) :=
  match Pattern.read form with
  | .ok p => (p.fitAtStart? name).map Pattern.Place.caught?
  | .error _ => none

/-- Cutting a text. The form leaves no limit but one with too many digits that cannot be read. -/
def readSplit (name : String) : Except OperatorError Path :=
  match arguments? splitForm name with
  | none => .error .badDefinition
  | some arguments =>
    let argument (n : Nat) := (arguments n).getD []
    let separator := ((arguments 1).or <| (arguments 2).or (arguments 3)).getD []
    let segment := if argument 4 = ['*'] then none else some (String.ofList (argument 4))
    match Text.readInteger? (argument 5) with
    | some limit => .ok (.split (String.ofList separator) segment limit)
    | none => .error .overlongInteger

/-- Replacing in a text. The pattern and the replacement have no blanks around them. -/
def readSubstitute (name : String) : Except OperatorError Path :=
  match arguments? substituteForm name with
  | none => .error .badDefinition
  | some arguments =>
    let argument (n : Nat) :=
      String.ofList (Text.trimBy Text.isBlank ((arguments n).getD []))
    match Pattern.read (argument 1) with
    | .error e => .error (.badPattern e)
    | .ok pattern => .ok (.substitute pattern (argument 2))

/-- The path of a named operator. -/
def readOperator (name : String) : Except OperatorError Path :=
  match name with
  | "this" => .ok .this
  | "parent" => .ok .parent
  | "len" => .ok .len
  | "keys" => .ok .keys
  | "path" => .ok .step
  | "sorted" => .ok (.sorted [])
  | _ =>
    if "split(".toList.isPrefixOf name.toList then
      readSplit name
    else if "sub(".toList.isPrefixOf name.toList then readSubstitute name
    else if "str(".toList.isPrefixOf name.toList then
      if (arguments? strForm name).isSome then .ok .str else .error .badDefinition
    else .error .unknown

end WebhookRelay.Query
