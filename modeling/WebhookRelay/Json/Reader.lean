import WebhookRelay.Binary64.Text
import WebhookRelay.Json

/-!
# Reading JSON

A text is first cut into tokens, each with its position, and then read token by token with a stack
of open containers. Neither pass ever looks back. The scanner cannot fail: where no token begins, or
a string is broken, it says so in the token, and the reader reports that only if something could
have stood there.

Beyond the standard grammar the numbers `NaN`, `Infinity` and `-Infinity` are read. Of repeated keys
the first gives the place and the last gives the value. An integer with too many digits is not read.
A string holds characters only, so half of a surrogate pair that stands alone in an escape is
replaced; `Json.hasLoneSurrogate` tells the texts with one apart.

- `Json.scanTokens`: the tokens of a text.
- `Json.State.step`: one token.
- `Json.read`: a whole text.
- `Json.depth`: how deep the containers are nested that are opened in reading a text.
- `Json.ReadError.message`: what went wrong, with line and column.
-/

namespace WebhookRelay.Json

/-! ## Problems -/

/-- What can be wrong with a text. -/
inductive Problem where
  | expectingValue
  | expectingName
  | expectingColon
  | expectingComma
  | extraData
  | byteOrderMark
  | unterminatedString
  | controlCharacter
  | invalidEscape
  | invalidUnicodeEscape
  /-- An integer has too many digits. Unlike the others this is no matter of the grammar. -/
  | overlongInteger
deriving DecidableEq, Repr

/-- The wording of a problem. -/
def Problem.message : Problem → String
  | .expectingValue => "Expecting value"
  | .expectingName => "Expecting property name enclosed in double quotes"
  | .expectingColon => "Expecting ':' delimiter"
  | .expectingComma => "Expecting ',' delimiter"
  | .extraData => "Extra data"
  | .byteOrderMark => "Unexpected UTF-8 BOM (decode using utf-8-sig)"
  | .unterminatedString => "Unterminated string starting at"
  | .controlCharacter => "Invalid control character at"
  | .invalidEscape => "Invalid \\escape"
  | .invalidUnicodeEscape => "Invalid \\uXXXX escape"
  | .overlongInteger => "Exceeds the limit (4300 digits) for integer string conversion"

/-- A problem and the number of characters before it. -/
structure Fault where
  problem : Problem
  position : Nat
deriving DecidableEq, Repr

/-- A problem in a text: lines count from one, and so do the columns of each line. -/
structure ReadError extends Fault where
  line : Nat
  column : Nat
deriving DecidableEq, Repr

/-- The line and column of the character after the given ones. -/
def lineAndColumn (before : List Char) : Nat × Nat :=
  before.foldl (fun p c => if c = '\n' then (p.1 + 1, 1) else (p.1, p.2 + 1)) (1, 1)

/-- Place a problem in its text. -/
def Fault.locate (cs : List Char) (f : Fault) : ReadError :=
  let (line, column) := lineAndColumn (cs.take f.position)
  ⟨f, line, column⟩

/-- The wording of a problem with its place. -/
def ReadError.message (e : ReadError) : String :=
  s!"{e.problem.message}: line {e.line} column {e.column} (char {e.position})"

/-! ## Strings -/

/-- The value of four hexadecimal digits. -/
def hexQuad? (a b c d : Char) : Option Nat := do
  let a ← Text.hexValue? a
  let b ← Text.hexValue? b
  let c ← Text.hexValue? c
  let d ← Text.hexValue? d
  return ((a * 16 + b) * 16 + c) * 16 + d

/-- The character after a backslash, for the escapes of one character. -/
def simpleEscape? : Char → Option Char
  | '"' => some '"'
  | '\\' => some '\\'
  | '/' => some '/'
  | 'b' => some '\x08'
  | 'f' => some '\x0c'
  | 'n' => some '\n'
  | 'r' => some '\r'
  | 't' => some '\t'
  | _ => none

/-- Is the code unit the first half of a pair? -/
def isHighSurrogate (n : Nat) : Bool := 0xD800 ≤ n && n ≤ 0xDBFF

/-- Is the code unit the second half of a pair? -/
def isLowSurrogate (n : Nat) : Bool := 0xDC00 ≤ n && n ≤ 0xDFFF

/-- The code point of a pair of halves. -/
def joinSurrogates (high low : Nat) : Nat :=
  0x10000 + (high - 0xD800) * 0x400 + (low - 0xDC00)

/-- The character of a code unit after the half `pending`, if one has been left open. Two halves
make one character; a half on its own has none and is replaced. -/
def unitChars (pending : Option Nat) (unit : Nat) : List Char :=
  match pending with
  | none => [if isLowSurrogate unit then '\uFFFD' else Char.ofNat unit]
  | some high =>
    if isLowSurrogate unit then [Char.ofNat (joinSurrogates high unit)]
    else ['\uFFFD', Char.ofNat unit]

/-- What stands for a half that nothing completes. -/
def orphan (pending : Option Nat) : List Char :=
  if pending.isSome then ['\uFFFD'] else []

/-- Put characters before a string that has been read. -/
def prepend (text : List Char) (r : Except Fault (List Char × Nat)) :
    Except Fault (List Char × Nat) :=
  r.map fun (more, n) => (text ++ more, n)

/-- Read a string from behind its opening quote, `n` characters after it: the text, and the number
of characters up to and with the closing quote; or the problem and its distance from the opening
quote. An escape by code needs another character after its digits. -/
def scanString (pending : Option Nat) (n : Nat) : List Char → Except Fault (List Char × Nat)
  | [] => .error ⟨.unterminatedString, 0⟩
  | '"' :: _ => .ok (orphan pending, n + 1)
  | ['\\'] => .error ⟨.unterminatedString, 0⟩
  | '\\' :: 'u' :: a :: b :: c :: d :: rest =>
    match hexQuad? a b c d with
    | none => .error ⟨.invalidUnicodeEscape, n + 2⟩
    | some unit =>
      if rest.isEmpty then .error ⟨.invalidUnicodeEscape, n + 2⟩
      else if isHighSurrogate unit then
        prepend (orphan pending) (scanString (some unit) (n + 6) rest)
      else prepend (unitChars pending unit) (scanString none (n + 6) rest)
  | '\\' :: 'u' :: _ => .error ⟨.invalidUnicodeEscape, n + 2⟩
  | '\\' :: c :: rest =>
    match simpleEscape? c with
    | none => .error ⟨.invalidEscape, n + 1⟩
    | some c => prepend (orphan pending ++ [c]) (scanString none (n + 2) rest)
  | c :: rest =>
    if c.toNat < 0x20 then .error ⟨.controlCharacter, n + 1⟩
    else prepend (orphan pending ++ [c]) (scanString none (n + 1) rest)

/-- Is there an escape for half of a surrogate pair without the other half beside it? `pending` says
that a first half has just been escaped. -/
def hasLoneSurrogateFrom (pending : Bool) : List Char → Bool
  | [] => pending
  | '\\' :: 'u' :: a :: b :: c :: d :: rest =>
    match hexQuad? a b c d with
    | none => pending || hasLoneSurrogateFrom false rest
    | some unit =>
      if isHighSurrogate unit then pending || hasLoneSurrogateFrom true rest
      else (isLowSurrogate unit != pending) || hasLoneSurrogateFrom false rest
  | '\\' :: _ :: rest => pending || hasLoneSurrogateFrom false rest
  | _ :: rest => pending || hasLoneSurrogateFrom false rest

/-- Is half of a surrogate pair escaped somewhere in a text without the other half? -/
def hasLoneSurrogate (text : String) : Bool :=
  hasLoneSurrogateFrom false text.toList

/-! ## Numbers -/

/-- The digits of a whole part: zero alone, or digits that start with another one. -/
def scanWhole : List Char → List Char
  | '0' :: _ => ['0']
  | cs => cs.takeWhile Char.isDigit

/-- The digits after a point, if there are any. -/
def scanFraction : List Char → List Char
  | '.' :: cs => cs.takeWhile Char.isDigit
  | _ => []

/-- The exponent of a number and its length: a mark, an optional sign and digits, or nothing. -/
def scanExponent : List Char → Int × Nat
  | [] => (0, 0)
  | mark :: cs =>
    let (negative, signs, cs) :=
      match cs with
      | '-' :: ds => (true, 1, ds)
      | '+' :: ds => (false, 1, ds)
      | ds => (false, 0, ds)
    let digits := cs.takeWhile Char.isDigit
    if (mark = 'e' || mark = 'E') && !digits.isEmpty then
      let n := Text.digitsValue digits
      (if negative then -(n : Int) else n, 1 + signs + digits.length)
    else (0, 0)

/-- The number at the start of the characters and its length. A number with a fraction or an
exponent is a floating-point number; a point or a mark without digits after it is not part of it. -/
def scanUnsigned? (negative : Bool) (cs : List Char) : Option (Json × Nat) :=
  let whole := scanWhole cs
  if whole.isEmpty then none
  else
    let cs := cs.drop whole.length
    let fraction := scanFraction cs
    let fractionLength := if fraction.isEmpty then 0 else fraction.length + 1
    let (exponent, exponentLength) := scanExponent (cs.drop fractionLength)
    let length := whole.length + fractionLength + exponentLength
    if fractionLength + exponentLength = 0 then
      let n := Text.digitsValue whole
      some (.int (if negative then -(n : Int) else n), length)
    else
      let digits := Text.digitsValue (whole ++ fraction)
      some (.float (.ofDecimal negative digits (exponent - fraction.length)), length)

/-! ## Tokens -/

/-- What a token is. -/
inductive Lexeme where
  | openArray
  | closeArray
  | openObject
  | closeObject
  | comma
  | colon
  /-- A string that can be read. -/
  | text (s : String)
  /-- Another value without parts. -/
  | scalar (v : Json)
  /-- An integer with too many digits. -/
  | overlong
  /-- A string with a problem. -/
  | broken (f : Fault)
  /-- A character with which no token begins. -/
  | stray

/-- A token and the number of characters before it. -/
structure Token where
  position : Nat
  lexeme : Lexeme

/-- The constants by name. -/
def constants : List (List Char × Json) :=
  [("null".toList, .null), ("true".toList, .bool true), ("false".toList, .bool false),
    ("NaN".toList, .float .nan), ("Infinity".toList, .float (.infinity false)),
    ("-Infinity".toList, .float (.infinity true))]

/-- The constant at the start of the characters and its length. -/
def scanConstant? (cs : List Char) : Option (Json × Nat) :=
  (constants.find? fun entry => entry.1.isPrefixOf cs).map fun (name, v) => (v, name.length)

/-- The number at the start of the characters and its length. -/
def scanNumber? : List Char → Option (Json × Nat)
  | '-' :: cs => (scanUnsigned? true cs).map fun (v, n) => (v, n + 1)
  | cs => scanUnsigned? false cs

/-- The token that starts with `c`, and the number of characters it has after `c`. -/
def scanLexeme (position : Nat) (c : Char) (rest : List Char) : Lexeme × Nat :=
  match c with
  | '[' => (.openArray, 0)
  | ']' => (.closeArray, 0)
  | '\x7b' => (.openObject, 0)
  | '\x7d' => (.closeObject, 0)
  | ',' => (.comma, 0)
  | ':' => (.colon, 0)
  | '"' =>
    match scanString none 0 rest with
    | .ok (text, n) => (.text (String.ofList text), n)
    | .error f => (.broken ⟨f.problem, position + f.position⟩, 0)
  | _ =>
    match (scanConstant? (c :: rest)).or (scanNumber? (c :: rest)) with
    | some (v, n) => (if v.hasOverlong then .overlong else .scalar v, n - 1)
    | none => (.stray, 0)

/-- Blanks between tokens: space, tab and the two line ends. -/
def isSeparator (c : Char) : Bool :=
  c = ' ' || c = '\t' || c = '\n' || c = '\r'

/-- The tokens of the characters; `skip` of them belong to the token before. -/
def scanTokens (skip position : Nat) : List Char → List Token
  | [] => []
  | c :: rest =>
    match skip with
    | k + 1 => scanTokens k (position + 1) rest
    | 0 =>
      if isSeparator c then scanTokens 0 (position + 1) rest
      else
        let (lexeme, more) := scanLexeme position c rest
        ⟨position, lexeme⟩ :: scanTokens more (position + 1) rest

/-! ## Reading -/

/-- A container that is still open, and in an object the key whose value is being read. -/
inductive Frame where
  /-- An array with the items so far, the latest first. -/
  | array (items : List Json)
  /-- An object with the members so far. -/
  | object (fields : List (String × Json)) (key : String)

/-- Where the reader stands between two tokens. -/
inductive State where
  /-- A value is due, or, if so marked, the end of an array that has just been opened. -/
  | value (closable : Bool) (stack : List Frame)
  /-- A key is due, or, if so marked, the end of an object that has just been opened. -/
  | key (closable : Bool) (fields : List (String × Json)) (stack : List Frame)
  /-- A colon is due. -/
  | colon (fields : List (String × Json)) (key : String) (stack : List Frame)
  /-- An item has been read. -/
  | item (items : List Json) (stack : List Frame)
  /-- A member has been read. -/
  | member (fields : List (String × Json)) (stack : List Frame)
  /-- The whole value has been read. -/
  | done (v : Json)

namespace State

/-- A value has been read. -/
def accept (v : Json) : List Frame → State
  | [] => .done v
  | .array items :: stack => .item (v :: items) stack
  | .object fields name :: stack => .member (Dictionary.put fields name v) stack

/-- What is missing where the reader stands. -/
def missing : State → Problem
  | .value .. => .expectingValue
  | .key .. => .expectingName
  | .colon .. => .expectingColon
  | .item .. | .member .. => .expectingComma
  | .done _ => .extraData

/-- One token. -/
def step (s : State) (t : Token) : Except Fault State :=
  match s, t.lexeme with
  | .value _ stack, .text text => .ok (accept (.string text) stack)
  | .value _ stack, .scalar v => .ok (accept v stack)
  | .value _ stack, .openArray => .ok (.value true (.array [] :: stack))
  | .value _ stack, .openObject => .ok (.key true [] stack)
  | .value true (.array _ :: stack), .closeArray => .ok (accept (.array []) stack)
  | .value .., .broken f => .error f
  | .value .., .overlong => .error ⟨.overlongInteger, t.position⟩
  | .key _ fields stack, .text name => .ok (.colon fields name stack)
  | .key true _ stack, .closeObject => .ok (accept (.object []) stack)
  | .key .., .broken f => .error f
  | .colon fields name stack, .colon => .ok (.value false (.object fields name :: stack))
  | .item items stack, .comma => .ok (.value false (.array items :: stack))
  | .item items stack, .closeArray => .ok (accept (.array items.reverse) stack)
  | .member fields stack, .comma => .ok (.key false fields stack)
  | .member fields stack, .closeObject => .ok (accept (.object fields) stack)
  | s, _ => .error ⟨s.missing, t.position⟩

/-- All tokens, one after another. -/
def run (s : State) (tokens : List Token) : Except Fault State :=
  tokens.foldlM step s

/-- The value, if the end of the text, `length` characters on, is a place to stop. -/
def finish (length : Nat) : State → Except Fault Json
  | .done v => .ok v
  | s => .error ⟨s.missing, length⟩

end State

/-! ## Depth -/

namespace State

/-- How many containers are open. -/
def depth : State → Nat
  | .value _ stack => stack.length
  | .key _ _ stack | .colon _ _ stack | .item _ stack | .member _ stack => stack.length + 1
  | .done _ => 0

/-- How many containers are open at most while tokens are read, up to the end or to a problem. -/
def deepest (s : State) : List Token → Nat
  | [] => s.depth
  | t :: tokens =>
    match s.step t with
    | .ok next => max s.depth (next.deepest tokens)
    | .error _ => s.depth

end State

/-- How deep the containers are nested that are opened in reading a text. What stands behind a
problem is not read. -/
def depth (text : String) : Nat :=
  match text.toList with
  | '\uFEFF' :: _ => 0
  | cs => (State.value false []).deepest (scanTokens 0 0 cs)

/-! ## Texts -/

/-- The characters of a text as a value. -/
def readChars (cs : List Char) : Except Fault Json :=
  match cs with
  | '\uFEFF' :: _ => .error ⟨.byteOrderMark, 0⟩
  | _ => (State.run (.value false []) (scanTokens 0 0 cs)).bind (State.finish cs.length)

/-- A text as a value. -/
def read (text : String) : Except ReadError Json :=
  (readChars text.toList).mapError (Fault.locate text.toList)

end WebhookRelay.Json
