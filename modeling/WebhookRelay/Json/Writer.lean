import WebhookRelay.Binary64.Text
import WebhookRelay.Json

/-!
# Writing JSON

Only the quote, the backslash and the characters below U+0020 are escaped; all other characters are
written as they are.

- `Json.Separators`: what stands between items, and between a key and its value.
- `Json.writeChars`: the text of a value as characters.
- `Json.compact`, `Json.spaced`: the two layouts in use.
-/

namespace WebhookRelay.Json

/-- What stands between items, and between a key and its value. -/
structure Separators where
  item : List Char
  key : List Char

/-- One character of a string. -/
def escapeChar (c : Char) : List Char :=
  if c = '"' then ['\\', '"']
  else if c = '\\' then ['\\', '\\']
  else if c = '\n' then ['\\', 'n']
  else if c = '\r' then ['\\', 'r']
  else if c = '\t' then ['\\', 't']
  else if c = '\x0c' then ['\\', 'f']
  else if c = '\x08' then ['\\', 'b']
  else if c.toNat < 0x20 then '\\' :: 'u' :: Text.hexDigits 4 c.toNat
  else [c]

/-- A string between quotes. -/
def writeString (s : String) : List Char :=
  '"' :: s.toList.flatMap escapeChar ++ ['"']

mutual

/-- The text of a value. -/
def writeChars (sep : Separators) : Json → List Char
  | .null => "null".toList
  | .bool true => "true".toList
  | .bool false => "false".toList
  | .int n => Text.showInteger n
  | .float x => Binary64.interchange.show x
  | .string s => writeString s
  | .array items => '[' :: writeItems sep items ++ [']']
  | .object fields => '\x7b' :: writeFields sep fields ++ ['\x7d']

/-- The items of an array with separators between them. -/
def writeItems (sep : Separators) : List Json → List Char
  | [] => []
  | [v] => writeChars sep v
  | v :: w :: vs => writeChars sep v ++ sep.item ++ writeItems sep (w :: vs)

/-- The members of an object with separators between them. -/
def writeFields (sep : Separators) : List (String × Json) → List Char
  | [] => []
  | [(k, v)] => writeString k ++ sep.key ++ writeChars sep v
  | (k, v) :: f :: fs =>
    writeString k ++ sep.key ++ writeChars sep v ++ sep.item ++ writeFields sep (f :: fs)

end

/-- Text without spaces. -/
def compact (v : Json) : String :=
  String.ofList (writeChars ⟨[','], [':']⟩ v)

/-- Text with a space after each comma and colon. -/
def spaced (v : Json) : String :=
  String.ofList (writeChars ⟨[',', ' '], [':', ' ']⟩ v)

end WebhookRelay.Json
