import WebhookRelay.Binary64.Places
import WebhookRelay.Json.Display

/-!
# Messages with arguments

A message has fields that its arguments fill one after another. A field is a percent sign, a name in
parentheses if the arguments are named, flags, a width, a point and a precision, and a letter that
says how the argument is written; a star stands for a number that is an argument itself. A doubled
percent sign stands for one. A message without arguments has no fields.

- `Log.Field`: a field.
- `Log.Field.write?`: what is written in a field for an argument.
- `Log.messageText?`: the text of a message, if the arguments fit it.
- `Log.messageText?_of_not_mem`: a message without percent signs is its own text.
-/

namespace WebhookRelay.Log

/-! ## Arguments -/

/-- The arguments that are left, and those that have names. -/
structure Arguments where
  named : Option (List (String × Json))
  left : List Json

namespace Arguments

/-- The arguments of a message. A single object, unless it is empty, gives named ones; on its own it
is one argument too. -/
def ofList (vs : List Json) : Arguments :=
  match vs with
  | [.object (f :: fs)] => ⟨some (f :: fs), vs⟩
  | _ => ⟨none, vs⟩

/-- The next argument. -/
def next? (a : Arguments) : Option (Json × Arguments) :=
  match a.left with
  | [] => none
  | v :: rest => some (v, { a with left := rest })

/-- The arguments after a name: what has that name is the only one. -/
def choose? (a : Arguments) (name : List Char) : Option Arguments :=
  (a.named.bind (·.lookup (String.ofList name))).map fun v => { a with left := [v] }

/-- The next argument, which has to be an integer of a size that can be counted. -/
def nextInteger? (a : Arguments) : Option (Int × Arguments) := do
  let (v, a) ← a.next?
  let n ← match v with
    | .int n => some n
    | .bool b => some (if b then 1 else 0)
    | _ => none
  if -0x8000000000000000 < n && n < 0x8000000000000000 then some (n, a) else none

/-- Is nothing left over? Named arguments need not be used. -/
def areUsed (a : Arguments) : Bool :=
  a.left.isEmpty || a.named.isSome

end Arguments

/-! ## Fields -/

/-- A field of a message. -/
structure Field where
  /-- The text stands at the left of the field. -/
  left : Bool
  /-- A number is filled up with zeros. -/
  zeros : Bool
  /-- A number has a sign also if it is not negative. -/
  plus : Bool
  /-- A number that is not negative has a space in the place of the sign. -/
  space : Bool
  /-- A number shows its base, or always has a point. -/
  marked : Bool
  width : Nat
  precision : Option Nat
  kind : Char
deriving Repr

/-- The name of a field, from what follows its opening parenthesis: up to the parenthesis that
closes it, where `depth` more are open. -/
def readName? : (depth : Nat) → List Char → Option (List Char)
  | _, [] => none
  | 0, ')' :: _ => some []
  | depth + 1, ')' :: rest => (readName? depth rest).map (')' :: ·)
  | depth, '(' :: rest => (readName? (depth + 1) rest).map ('(' :: ·)
  | depth, c :: rest => (readName? depth rest).map (c :: ·)

/-- A width or a precision, and the number of characters it takes: a star for an argument, or
digits. -/
def readAmount? (cs : List Char) (a : Arguments) : Option (Int × Nat × Arguments) :=
  match cs with
  | '*' :: _ => a.nextInteger?.map fun (n, a) => (n, 1, a)
  | _ =>
    let digits := cs.takeWhile Char.isDigit
    some (Text.digitsValue digits, digits.length, a)

/-- Is the character a flag of a field? -/
def isFieldFlag (c : Char) : Bool := ['-', '+', ' ', '#', '0'].contains c

/-- A field, from what follows its percent sign, the number of characters it takes, and the
arguments that are left. -/
def readField? (cs : List Char) (a : Arguments) : Option (Field × Nat × Arguments) := do
  let (n, a) ←
    match cs with
    | '(' :: rest =>
      (readName? 0 rest).bind fun name => (a.choose? name).map (name.length + 2, ·)
    | _ => some (0, a)
  let flags := (cs.drop n).takeWhile isFieldFlag
  let n := n + flags.length
  let (width, m, a) ← readAmount? (cs.drop n) a
  let n := n + m
  let (precision, n, a) ←
    match cs.drop n with
    | '.' :: rest => (readAmount? rest a).map fun (p, m, a) => (some p.toNat, n + 1 + m, a)
    | _ => some (none, n, a)
  let n := if (cs.drop n).head?.any ['h', 'l', 'L'].contains then n + 1 else n
  let kind ← (cs.drop n).head?
  let field : Field :=
    { left := flags.contains '-' || width < 0, zeros := flags.contains '0'
      plus := flags.contains '+', space := flags.contains ' ', marked := flags.contains '#'
      width := width.natAbs, precision, kind }
  return (field, n + 1, a)

/-! ## Writing -/

/-- The whole number that a value stands for: a fraction is cut off. -/
def integer? : Json → Option Int
  | .int n => some n
  | .bool b => some (if b then 1 else 0)
  | .float x => x.toDyadic?.map Dyadic.truncate
  | _ => none

/-- The floating-point number that a value stands for. -/
def float? : Json → Option Binary64
  | .int n => Binary64.ofInt? n
  | .bool b => Binary64.ofInt? (if b then 1 else 0)
  | .float x => some x
  | _ => none

/-- The character that a value stands for. -/
def char? : Json → Option Char
  | .string s =>
    match s.toList with
    | [c] => some c
    | _ => none
  | .int (.ofNat n) => if n.isValidChar then some (Char.ofNat n) else none
  | .bool b => some (Char.ofNat (if b then 1 else 0))
  | _ => none

/-- An integer in a base, with at least as many digits as the precision asks for. -/
def showInBase (base : Nat) (mark : List Char) (precision : Nat) (n : Int) : List Char :=
  let digits := Nat.toDigits base n.natAbs
  (if n < 0 then ['-'] else []) ++ mark ++
    List.replicate (precision - digits.length) '0' ++ digits

namespace Field

/-- A number in the base of a field. -/
def showInteger (f : Field) (n : Int) : List Char :=
  let precision := f.precision.getD 0
  match f.kind with
  | 'o' => showInBase 8 (if f.marked then ['0', 'o'] else []) precision n
  | 'x' => showInBase 16 (if f.marked then ['0', 'x'] else []) precision n
  | 'X' => (showInBase 16 (if f.marked then ['0', 'x'] else []) precision n).map Char.toUpper
  | _ => showInBase 10 [] precision n

/-- A floating-point number in the style of a field. -/
def showFloat (f : Field) (x : Binary64) : List Char :=
  let style : Binary64.Style :=
    match f.kind.toLower with
    | 'e' => .exponential
    | 'f' => .positional
    | _ => .general
  let text := x.showPlaces style (f.precision.getD 6) f.marked
  if f.kind.isUpper then text.map Char.toUpper else text

/-- Cut a text off at the precision. -/
def cut (f : Field) (cs : List Char) : List Char :=
  match f.precision with
  | some n => cs.take n
  | none => cs

/-- Is a value written with the decimal digits of its integers? -/
def isDecimal (f : Field) : Bool := ['s', 'r', 'a', 'd', 'i', 'u'].contains f.kind

/-- The text for a value before it is fitted into the field, and whether it is a number. -/
def body? (f : Field) (v : Json) : Option (List Char × Bool) :=
  if f.isDecimal && v.hasOverlong then none
  else match f.kind with
  | 's' => some (f.cut v.display.toList, false)
  | 'r' => some (f.cut v.displayInner.toList, false)
  | 'a' => some (f.cut (Text.inAscii v.displayInner.toList), false)
  | 'c' => (char? v).map fun c => ([c], false)
  | 'd' | 'i' | 'u' => (integer? v).map fun n => (f.showInteger n, true)
  | 'o' | 'x' | 'X' =>
    match v with
    | .float _ => none
    | _ => (integer? v).map fun n => (f.showInteger n, true)
  | 'e' | 'E' | 'f' | 'F' | 'g' | 'G' => (float? v).map fun x => (f.showFloat x, true)
  | _ => none

/-- The part of a text for a number that zeros are put after: its sign and the mark of its base. -/
def start (f : Field) (cs : List Char) : List Char × List Char :=
  let (sign, rest) :=
    match cs with
    | '-' :: rest => (['-'], rest)
    | _ => (if f.plus then ['+'] else if f.space then [' '] else [], cs)
  let mark := if f.marked && ['o', 'x', 'X'].contains f.kind then 2 else 0
  (sign ++ rest.take mark, rest.drop mark)

/-- Fit a text into the field. -/
def fit (f : Field) (cs : List Char) (isNumber : Bool) : List Char :=
  let (start, rest) := if isNumber then f.start cs else ([], cs)
  let missing := f.width - (start.length + rest.length)
  if f.left then start ++ rest ++ List.replicate missing ' '
  else if isNumber && f.zeros then start ++ List.replicate missing '0' ++ rest
  else List.replicate missing ' ' ++ start ++ rest

/-- What is written in the field for a value. -/
def write? (f : Field) (v : Json) : Option (List Char) :=
  (f.body? v).map fun (cs, isNumber) => f.fit cs isNumber

end Field

/-! ## Messages -/

/-- Fill the fields of a message after its first `skip` characters, and give the arguments that are
left over. -/
def fill? : (skip : Nat) → List Char → Arguments → Option (List Char × Arguments)
  | _, [], a => some ([], a)
  | skip + 1, _ :: rest, a => fill? skip rest a
  | 0, '%' :: '%' :: rest, a => (fill? 0 rest a).map fun (others, a) => ('%' :: others, a)
  | 0, '%' :: rest, a => do
    let (field, n, a) ← readField? rest a
    let (v, a) ← a.next?
    let first ← field.write? v
    let (others, a) ← fill? n rest a
    return (first ++ others, a)
  | 0, c :: rest, a => (fill? 0 rest a).map fun (others, a) => (c :: others, a)

/-- The text of a message, if the arguments fit it. -/
def messageText? (message : String) (arguments : List Json) : Option String :=
  if arguments.isEmpty then some message
  else
    match fill? 0 message.toList (.ofList arguments) with
    | some (text, a) => if a.areUsed then some (String.ofList text) else none
    | none => none

/-- A text without percent signs has no fields. -/
theorem fill?_of_not_mem {cs : List Char} (h : '%' ∉ cs) (a : Arguments) :
    fill? 0 cs a = some (cs, a) := by
  induction cs with
  | nil => rfl
  | cons c rest ih =>
    rw [List.mem_cons, not_or] at h
    obtain ⟨hc, hrest⟩ := h
    rw [fill?, ih hrest]
    · rfl
    · exact fun _ heq _ => hc heq.symm
    · exact fun heq => hc heq.symm

/-- A message without fields is its own text, if its arguments need not be used. -/
theorem messageText?_of_not_mem {message : String} {arguments : List Json}
    (h : '%' ∉ message.toList) (hused : (Arguments.ofList arguments).areUsed = true) :
    messageText? message arguments = some message := by
  unfold messageText?
  rw [fill?_of_not_mem h]
  simp [hused]

end WebhookRelay.Log
