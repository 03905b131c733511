import WebhookRelay.Binary64.Text
import WebhookRelay.Dictionary
import WebhookRelay.Json
import WebhookRelay.Text.Blank

/-!
# Validation

Untyped values are checked against what is expected, and all problems are reported together, each
with the place where it was found.

- `Validation.Problem`: a problem and its place.
- `Checked`: a value, or all problems.
- `Validation.string`, `integer`, `number`, `boolean`, `list`, `dictionary`: the checks.
- `Validation.required`, `withDefault`, `noOthers`: the members of an object.
-/

namespace WebhookRelay

namespace Validation

/-- What can be wrong with a value. -/
inductive Kind where
  | missing
  | extraForbidden
  | stringType
  | intType
  | intParsing
  | intParsingSize
  | intFromFloat
  | finiteNumber
  | floatType
  | floatParsing
  | boolType
  | boolParsing
  | enum
  | listType
  | dictType
  | modelType
deriving DecidableEq, Repr

/-- The name of what is wrong. -/
def Kind.name : Kind → String
  | .missing => "missing"
  | .extraForbidden => "extra_forbidden"
  | .stringType => "string_type"
  | .intType => "int_type"
  | .intParsing => "int_parsing"
  | .intParsingSize => "int_parsing_size"
  | .intFromFloat => "int_from_float"
  | .finiteNumber => "finite_number"
  | .floatType => "float_type"
  | .floatParsing => "float_parsing"
  | .boolType => "bool_type"
  | .boolParsing => "bool_parsing"
  | .enum => "enum"
  | .listType => "list_type"
  | .dictType => "dict_type"
  | .modelType => "model_type"

/-- A problem, and the keys and numbers that lead to it from the outside in. -/
structure Problem where
  location : List String
  kind : Kind
deriving DecidableEq, Repr

/-- The same problem seen from one level further out. -/
def Problem.within (key : String) (p : Problem) : Problem :=
  { p with location := key :: p.location }

end Validation

/-- A value that has been checked, or the problems with it. -/
inductive Checked (α : Type) where
  | valid (a : α)
  | invalid (problems : List Validation.Problem)
deriving DecidableEq, Repr

namespace Checked

variable {α β : Type}

/-- The problems with a value. -/
def problems : Checked α → List Validation.Problem
  | .valid _ => []
  | .invalid ps => ps

/-- One problem with the value itself. -/
def refuse (kind : Validation.Kind) : Checked α := .invalid [⟨[], kind⟩]

/-- Apply a checked function to a checked value; the problems of both are reported. -/
def and : Checked (α → β) → Checked α → Checked β
  | .valid f, .valid a => .valid (f a)
  | f, x => .invalid (f.problems ++ x.problems)

instance : Applicative Checked where
  pure := .valid
  seq f x := and f (x ())

/-- A value at a key. -/
def within (key : String) : Checked α → Checked α
  | .valid a => .valid a
  | .invalid ps => .invalid (ps.map (·.within key))

/-- The value, or the problems as an error. -/
def toExcept : Checked α → Except (List Validation.Problem) α
  | .valid a => .ok a
  | .invalid ps => .error ps

end Checked

namespace Validation

/-! ## Single values -/

/-- A text. Nothing else is turned into one. -/
def string : Json → Checked String
  | .string s => .valid s
  | _ => .refuse .stringType

/-- Nothing, or a checked value. -/
def nullable {α : Type} (check : Json → Checked α) : Json → Checked (Option α)
  | .null => .valid none
  | v => some <$> check v

/-- One of a set of names. -/
def name {α : Type} (ofName? : String → Option α) : Json → Checked α
  | .string s =>
    match ofName? s with
    | some a => .valid a
    | none => .refuse .enum
  | _ => .refuse .enum

/-- Remove single low lines between other characters; a low line elsewhere is not allowed. -/
def withoutLowLines? : List Char → Option (List Char)
  | [] => some []
  | [c] => if c = '_' then none else some [c]
  | '_' :: _ => none
  | c :: '_' :: d :: rest => if d = '_' then none else (withoutLowLines? (d :: rest)).map (c :: ·)
  | c :: rest => (withoutLowLines? rest).map (c :: ·)

/-- Digits without the zeros at the front, among which low lines may stand; a zero before the point
or at the end is kept. A negative integer is left as it is. -/
def withoutZeros? : List Char → Option (List Char)
  | [] => none
  | '0' :: rest =>
    let zeros := rest.takeWhile fun c => c = '0' || c = '_'
    match rest.drop zeros.length with
    | [] => some [zeros.getLastD '0']
    | '.' :: more => some (zeros.getLastD '0' :: '.' :: more)
    | c :: more => if c.isDigit then some (c :: more) else none
  | c :: rest => if c.isDigit || c = '-' then some (c :: rest) else none

/-- An integer without a point that has nothing but zeros after it. -/
def withoutFraction (cs : List Char) : List Char :=
  let whole := cs.takeWhile (· != '.')
  if (cs.drop (whole.length + 1)).all (· = '0') then whole else cs

/-- The integer that digits denote, with a minus sign if it is negative. -/
def readDigits? (cs : List Char) : Option Int :=
  let natural? (ds : List Char) : Option Nat :=
    if ds.isEmpty || !ds.all Char.isDigit then none else some (Text.digitsValue ds)
  match cs with
  | '-' :: rest => (natural? rest).map fun n => -(n : Int)
  | _ => (natural? cs).map Int.ofNat

/-- The integer that a text denotes: white space around it, a sign, zeros at the front, single low
lines, and a point with nothing but zeros after it are allowed. -/
def readWhole? (s : String) : Option Int := do
  let cs ←
    match Text.trimBy Text.isWhiteSpace s.toList with
    | '+' :: '-' :: _ => none
    | '+' :: rest => some rest
    | cs => some cs
  let cs := withoutFraction (← withoutZeros? cs)
  readDigits? ((withoutLowLines? cs).getD cs)

/-- An integer: a number without a fractional part, a truth value, or a text of an integer. -/
def integer : Json → Checked Int
  | .int n => .valid n
  | .bool b => .valid (if b then 1 else 0)
  | .float x =>
    match x.toDyadic? with
    | none => .refuse .finiteNumber
    | some d =>
      if !d.isInteger then .refuse .intFromFloat
      else if -0x8000000000000000 < d.truncate && d.truncate < 0x8000000000000000 then
        .valid d.truncate
      else .refuse .intParsingSize
  | .string s =>
    match readWhole? s with
    | some n => .valid n
    | none => .refuse .intParsing
  | _ => .refuse .intType

/-- The number that a text denotes, with white space around it or low lines between digits. -/
def readNumber? (s : String) : Option Binary64 :=
  (Binary64.readNumeric? (Text.trimBy Text.isWhiteSpace s.toList)).or
    ((withoutLowLines? s.toList).bind Binary64.readNumeric?)

/-- A floating-point number: a number, a truth value, or a text of a number. -/
def number : Json → Checked Binary64
  | .float x => .valid x
  | .int n =>
    match Binary64.ofInt? n with
    | some x => .valid x
    | none => .refuse .floatType
  | .bool b => .valid (Binary64.ofRatio false (if b then 1 else 0) 1)
  | .string s =>
    match readNumber? s with
    | some x => .valid x
    | none => .refuse .floatParsing
  | _ => .refuse .floatType

/-- The truth value that a word stands for, in any letter case. -/
def readBoolean? (s : String) : Option Bool :=
  let word := String.ofList (s.toList.map Char.toLower)
  if ["1", "on", "t", "true", "y", "yes"].contains word then some true
  else if ["0", "off", "f", "false", "n", "no"].contains word then some false
  else none

/-- Zero and one as truth values. -/
def booleanOfInt : Int → Checked Bool
  | 0 => .valid false
  | 1 => .valid true
  | _ => .refuse .boolParsing

/-- A truth value: one of the two, zero or one, or a word that stands for one. -/
def boolean : Json → Checked Bool
  | .bool b => .valid b
  | .int n => booleanOfInt n
  | .float x =>
    match x.toDyadic? with
    | some d => if d.isInteger then booleanOfInt d.truncate else .refuse .boolType
    | none => .refuse .boolType
  | .string s =>
    match readBoolean? s with
    | some b => .valid b
    | none => .refuse .boolParsing
  | _ => .refuse .boolType

/-! ## Containers -/

/-- Items from number `i` on. -/
def items {α : Type} (check : Json → Checked α) (i : Nat) : List Json → Checked (List α)
  | [] => .valid []
  | v :: vs =>
    List.cons <$> (check v).within (toString i) <*> items check (i + 1) vs

/-- A list of checked values. -/
def list {α : Type} (check : Json → Checked α) : Json → Checked (List α)
  | .array vs => items check 0 vs
  | _ => .refuse .listType

/-- Entries of a dictionary. A problem with a key comes before those with its value. -/
def entries {κ α : Type} (key : Json → Checked κ) (check : Json → Checked α) :
    List (String × Json) → Checked (List (κ × α))
  | [] => .valid []
  | (k, v) :: rest =>
    let first := Prod.mk <$> ((key (.string k)).within "[key]").within k <*> (check v).within k
    List.cons <$> first <*> entries key check rest

/-- A dictionary of checked keys and values. -/
def dictionary {κ α : Type} (key : Json → Checked κ) (check : Json → Checked α) :
    Json → Checked (List (κ × α))
  | .object fields => entries key check fields
  | _ => .refuse .dictType

/-! ## Members of an object -/

/-- A member of an object: the key under which it is written, and the name under which it is
accepted as well. -/
structure Field where
  key : String
  name : String
deriving DecidableEq, Repr

/-- A member whose key is its name. -/
def Field.plain (key : String) : Field := ⟨key, key⟩

/-- The key under which a member is given: its own key before its name. -/
def Field.used? (f : Field) (fields : List (String × Json)) : Option (String × Json) :=
  match fields.lookup f.key with
  | some v => some (f.key, v)
  | none => (fields.lookup f.name).map (f.name, ·)

variable {α : Type}

/-- A member that has to be there. -/
def required (fields : List (String × Json)) (f : Field) (check : Json → Checked α) : Checked α :=
  match f.used? fields with
  | some (key, v) => (check v).within key
  | none => (Checked.refuse .missing).within f.key

/-- A member that has a value also if it is not there. -/
def withDefault (fields : List (String × Json)) (f : Field) (default : α)
    (check : Json → Checked α) : Checked α :=
  match f.used? fields with
  | some (key, v) => (check v).within key
  | none => .valid default

/-- There are no other members. -/
def noOthers (fields : List (String × Json)) (known : List Field) : Checked Unit :=
  let used := known.filterMap fun f => (f.used? fields).map Prod.fst
  let others := fields.filter fun (k, _) => !used.contains k
  if others.isEmpty then .valid ()
  else .invalid (others.map fun (k, _) => ⟨[k], .extraForbidden⟩)

/-- An object, by its members. -/
def object (check : List (String × Json) → Checked α) : Json → Checked α
  | .object fields => check fields
  | _ => .refuse .modelType

end Validation

end WebhookRelay
