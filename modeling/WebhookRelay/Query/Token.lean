import WebhookRelay.Binary64.Text
import WebhookRelay.Query.Path
import WebhookRelay.Text.Integer

/-!
# Tokens of expressions

An expression is cut into tokens, each with its place. Where no token can be read the cutting ends;
the reader meets that end only when it has used up the tokens before it.

- `Token`: the tokens.
- `Token.text`, `Token.sort`: how messages show a token.
- `tokenize`: the tokens of an expression and how it ends.
-/

namespace WebhookRelay.Query

/-- The tokens of expressions. -/
inductive Token where
  /-- A name, plain or quoted. -/
  | name (s : String)
  | where
  | whereNot
  | number (n : Int)
  | float (x : Binary64)
  | bool (b : Bool)
  | comparison (op : Comparison)
  /-- A slash or, for descending order, a backslash. -/
  | direction (descending : Bool)
  /-- An operator that is written as a name between back quotes. -/
  | operator (s : String)
  /-- Two points. -/
  | descend
  | symbol (c : Char)
deriving DecidableEq, Repr

namespace Token

/-- The value of a token in messages. -/
def text : Token → String
  | .name s => s
  | .where => "where"
  | .whereNot => "wherenot"
  | .number n => String.ofList (Text.showInteger n)
  | .float x => x.toText
  | .bool b => if b then "True" else "False"
  | .comparison op => op.text
  | .direction descending => if descending then "\\" else "/"
  | .operator s => s
  | .descend => ".."
  | .symbol c => String.singleton c

/-- The sort of a token in messages. -/
def sort : Token → String
  | .name _ => "ID"
  | .where => "WHERE"
  | .whereNot => "WHERENOT"
  | .number _ => "NUMBER"
  | .float _ => "FLOAT"
  | .bool _ => "BOOL"
  | .comparison _ => "FILTER_OP"
  | .direction _ => "SORT_DIRECTION"
  | .operator _ => "NAMED_OPERATOR"
  | .descend => "DOUBLEDOT"
  | .symbol c => String.singleton c

end Token

/-! ## Reading one token -/

/-- The symbols that stand for themselves. -/
def symbols : List Char :=
  ['*', '.', '[', ']', '(', ')', '$', ',', ':', '|', '&', '~', '?', '@', '+', '/', '-']

/-- May a character begin a name? -/
def isNameStart (c : Char) : Bool := c.isAlpha || c = '_'

/-- May a character continue a name? -/
def isNameRest (c : Char) : Bool := c.isAlphanum || c = '_' || c = '@' || c = '-'

/-- The token of a plain word. -/
def wordToken (cs : List Char) : Token :=
  if cs = "where".toList then .where
  else if cs = "wherenot".toList then .whereNot
  else .name (String.ofList cs)

/-- Read a truth value; it need not end where the word ends. -/
def readBool? (cs : List Char) : Option (Token × Nat) :=
  if "true".toList.isPrefixOf cs then some (.bool true, 4)
  else if "false".toList.isPrefixOf cs then some (.bool false, 5)
  else none

/-- Read a sort mark, which may have a comma and blanks before it. -/
def readDirection? (cs : List Char) : Option (Token × Nat) :=
  let comma := if cs.head? = some ',' then 1 else 0
  let rest := cs.drop comma
  let blanks := (rest.takeWhile Text.isBlank).length
  match rest.drop blanks with
  | '/' :: _ => some (.direction false, comma + blanks + 1)
  | '\\' :: _ => some (.direction true, comma + blanks + 1)
  | _ => none

/-- Read a plain name. -/
def readName? (cs : List Char) : Option (Token × Nat) :=
  let mark := if cs.head? = some '@' then ['@'] else []
  match cs.drop mark.length with
  | c :: rest =>
    if isNameStart c then
      let word := mark ++ c :: rest.takeWhile isNameRest
      some (wordToken word, word.length)
    else none
  | [] => none

/-- Read a number: with a point and digits after it, it is a floating-point one. -/
def readNumber? (cs : List Char) : Option (Token × Nat) :=
  let sign := if cs.head? = some '-' then 1 else 0
  let rest := cs.drop sign
  let whole := rest.takeWhile Text.isDecimal
  let fraction :=
    match rest.drop whole.length with
    | '.' :: more => more.takeWhile Text.isDecimal
    | _ => []
  if whole.isEmpty then none
  else if fraction.isEmpty then
    let n : Int := Text.digitsValue whole
    some (.number (if sign = 1 then -n else n), sign + whole.length)
  else
    some (.float (Binary64.ofDecimal (sign = 1) (Text.digitsValue (whole ++ fraction))
      (-(fraction.length : Int))), sign + whole.length + 1 + fraction.length)

/-- Read a comparison. -/
def readComparison? : List Char → Option (Token × Nat)
  | '=' :: '~' :: _ => some (.comparison .matches, 2)
  | '=' :: '=' :: _ => some (.comparison .equal, 2)
  | '=' :: _ => some (.comparison .assign, 1)
  | '<' :: '=' :: _ => some (.comparison .lessEqual, 2)
  | '>' :: '=' :: _ => some (.comparison .greaterEqual, 2)
  | '!' :: '=' :: _ => some (.comparison .notEqual, 2)
  | '<' :: _ => some (.comparison .less, 1)
  | '>' :: _ => some (.comparison .greater, 1)
  | _ => none

/-- Read a symbol. -/
def readSymbol? : List Char → Option (Token × Nat)
  | '.' :: '.' :: _ => some (.descend, 2)
  | c :: _ => if symbols.contains c then some (.symbol c, 1) else none
  | [] => none

/-- A token before the quoted ones in the order of trial, and the number of characters it takes. -/
def readWord? (cs : List Char) : Option (Token × Nat) :=
  (readBool? cs).or <| (readDirection? cs).or <| (readName? cs).or <| readNumber? cs

/-- Is a token that is written in these characters an integer with too many digits? -/
def Token.isOverlong (written : List Char) : Token → Bool
  | .number _ => Text.areTooMany (written.filter Text.isDecimal)
  | _ => false

/-- How a quoted text goes on after its opening quote. -/
inductive Quoted where
  /-- The text, and the number of characters after the opening quote up to the closing one. -/
  | closed (text : List Char) (length : Nat)
  | unclosed
  /-- A backslash that escapes nothing, after so many characters. -/
  | badEscape (length : Nat)
deriving Repr

/-- Add characters to the text of a quotation. -/
def Quoted.push (cs : List Char) (n : Nat) : Quoted → Quoted
  | .closed text length => .closed (cs ++ text) (length + n)
  | .unclosed => .unclosed
  | .badEscape length => .badEscape (length + n)

/-- Read a quoted text. A backslash stands for the character after it, if that is no line end. -/
def readQuoted (q : Char) : List Char → Quoted
  | [] => .unclosed
  | '\\' :: c :: rest =>
    if c = '\n' then .badEscape 0 else (readQuoted q rest).push [c] 2
  | '\\' :: [] => .badEscape 0
  | c :: rest => if c = q then .closed [] 0 else (readQuoted q rest).push [c] 1

/-! ## Reading all tokens -/

/-- A token with its place: the column counts from the latest line end before it. -/
structure Lexeme where
  token : Token
  line : Nat
  column : Nat
  /-- The number of characters before it. -/
  position : Nat
deriving DecidableEq, Repr

/-- Why no further token can be read. -/
inductive LexError where
  | unexpected (line column : Nat) (c : Char)
  | badEscape (line column : Nat) (q : Char)
  | unclosedQuote
deriving DecidableEq, Repr

/-- What a quote encloses. -/
def quotedThing (q : Char) : String :=
  if q = '\'' then "singlequoted field"
  else if q = '"' then "doublequoted field"
  else "backquoted operator"

/-- The wording of an error. -/
def LexError.message : LexError → String
  | .unexpected line column c =>
    s!"Error on line {line}, col {column}: Unexpected character: {c} "
  | .badEscape line column q =>
    s!"Error on line {line}, col {column} while lexing {quotedThing q}: Unexpected character: \\ "
  | .unclosedQuote => "Unexpected EOF in string literal or identifier"

/-- What ends the tokens of an expression before its end. -/
inductive Halt where
  | error (e : LexError)
  /-- An integer has too many digits. -/
  | overlongInteger
deriving DecidableEq, Repr

/-- The tokens of an expression, and what ends them early, if something does. -/
structure Lexed where
  lexemes : List Lexeme
  halt : Option Halt
deriving DecidableEq, Repr

/-- Put a token before others. -/
def Lexed.push (l : Lexeme) (r : Lexed) : Lexed := { r with lexemes := l :: r.lexemes }

/-- A place in an expression: how much is before it, its line, and where the line starts. -/
structure Cursor where
  position : Nat
  line : Nat
  lineStart : Nat
deriving Repr

namespace Cursor

/-- The place after one more character. -/
def advance (p : Cursor) : Cursor := { p with position := p.position + 1 }

/-- The place after a line end. -/
def newLine (p : Cursor) : Cursor := ⟨p.position + 1, p.line + 1, p.position⟩

/-- The column of the character so many characters further on. -/
def column (p : Cursor) (offset : Nat) : Nat := p.position + offset - p.lineStart

/-- A token at the character so many characters further on. -/
def lexeme (p : Cursor) (offset : Nat) (t : Token) : Lexeme :=
  ⟨t, p.line, p.column offset, p.position + offset⟩

end Cursor

/-- Is the character a quote? -/
def isQuote (c : Char) : Bool := c = '\'' || c = '"' || c = '\x60'

/-- The token of a quoted text. -/
def quotedToken (q : Char) (text : List Char) : Token :=
  if q = '\x60' then .operator (String.ofList text) else .name (String.ofList text)

/-- The tokens after the first `skip` characters, the first of which stands at `p`. The place of a
quoted token is that of its closing quote. -/
def tokenizeFrom : (skip : Nat) → Cursor → List Char → Lexed
  | _, _, [] => ⟨[], none⟩
  | skip + 1, p, _ :: rest => tokenizeFrom skip p.advance rest
  | 0, p, c :: rest =>
    if c = ' ' || c = '\t' then tokenizeFrom 0 p.advance rest
    else
      match readWord? (c :: rest) with
      | some (t, n) =>
        if t.isOverlong ((c :: rest).take n) then ⟨[], some .overlongInteger⟩
        else (tokenizeFrom (n - 1) p.advance rest).push (p.lexeme 0 t)
      | none =>
        if isQuote c then
          match readQuoted c rest with
          | .closed text n =>
            (tokenizeFrom (n + 1) p.advance rest).push (p.lexeme (n + 1) (quotedToken c text))
          | .unclosed => ⟨[], some (.error .unclosedQuote)⟩
          | .badEscape n => ⟨[], some (.error (.badEscape p.line (p.column (n + 1)) c))⟩
        else if c = '\n' then tokenizeFrom 0 p.newLine rest
        else
          match (readComparison? (c :: rest)).or (readSymbol? (c :: rest)) with
          | some (t, n) => (tokenizeFrom (n - 1) p.advance rest).push (p.lexeme 0 t)
          | none => ⟨[], some (.error (.unexpected p.line (p.column 0) c))⟩

/-- The tokens of an expression. -/
def tokenize (expression : String) : Lexed :=
  tokenizeFrom 0 ⟨0, 1, 0⟩ expression.toList

end WebhookRelay.Query
