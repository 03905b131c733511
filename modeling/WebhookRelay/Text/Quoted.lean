import WebhookRelay.Text.Digit
import WebhookRelay.Text.Printable

/-!
# Quoted text

How messages show a text: between quotes, with escapes for whatever would not be visible. Single
quotes are used unless the text has a single quote and no double quote.

- `quoteFor`: the quote to use.
- `escapeChar`: one character inside the quotes.
- `quoted`: the whole text.
- `inAscii`: a text written in ASCII.
-/

namespace WebhookRelay.Text

/-- The quote to put around a text. -/
def quoteFor (cs : List Char) : Char :=
  if cs.contains '\'' && !cs.contains '"' then '"' else '\''

/-- A character given by its code in two, four or eight digits. -/
def codeEscape (c : Char) : List Char :=
  if c.toNat < 0x100 then '\\' :: 'x' :: hexDigits 2 c.toNat
  else if c.toNat < 0x10000 then '\\' :: 'u' :: hexDigits 4 c.toNat
  else '\\' :: 'U' :: hexDigits 8 c.toNat

/-- One character between quotes `q`: the quote and the backslash are escaped, line ends and tabs
have letters, and other unprintable characters are given by their code. -/
def escapeChar (q c : Char) : List Char :=
  if c = q || c = '\\' then ['\\', c]
  else if c = '\n' then ['\\', 'n']
  else if c = '\r' then ['\\', 'r']
  else if c = '\t' then ['\\', 't']
  else if isPrintable c then [c]
  else codeEscape c

/-- The text between quotes. -/
def quoted (s : String) : String :=
  let cs := s.toList
  let q := quoteFor cs
  String.ofList (q :: cs.flatMap (escapeChar q) ++ [q])

/-- A text with its characters outside ASCII given by their codes. -/
def inAscii (cs : List Char) : List Char :=
  cs.flatMap fun c => if c.toNat < 0x80 then [c] else codeEscape c

end WebhookRelay.Text
