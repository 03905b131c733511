import WebhookRelay.Text.Blank
import WebhookRelay.Text.Digit

/-!
# Integers as text

An integer may be written with white space around it, a sign, decimal digits of any script, and
single low lines between digits. An integer with more than 4300 digits is neither read nor written.

- `areTooMany`: are these more digits than that?
- `readInteger?`: the integer that a text denotes.
- `showInteger`: decimal digits with a minus sign for negative numbers, however many there are.
- `isOverlong`: are they too many?
-/

namespace WebhookRelay.Text

/-- Read digits with single low lines between them, onto the digits read so far. -/
def readDigitsFrom? (n : Nat) : List Char → Option Nat
  | [] => none
  | [c] => (digitValue? c).map (10 * n + ·)
  | c :: '_' :: rest => (digitValue? c).bind fun d => readDigitsFrom? (10 * n + d) rest
  | c :: rest => (digitValue? c).bind fun d => readDigitsFrom? (10 * n + d) rest

/-- Read a sign and digits. -/
def readSigned? : List Char → Option Int
  | '-' :: cs => (readDigitsFrom? 0 cs).map fun n => -(n : Int)
  | '+' :: cs => (readDigitsFrom? 0 cs).map Int.ofNat
  | cs => (readDigitsFrom? 0 cs).map Int.ofNat

/-- The greatest number of digits of an integer that is read or written. -/
def maxDigits : Nat := 4300

/-- Are these more digits than are read or written? -/
def areTooMany (digits : List Char) : Bool :=
  !(digits.drop maxDigits).isEmpty

/-- The integer that a text denotes, if it denotes one and has not too many digits. -/
def readInteger? (cs : List Char) : Option Int :=
  if areTooMany (cs.filter isDecimal) then none else readSigned? (trimBy isWhiteSpace cs)

/-- The decimal digits of a natural number. -/
def showNatural (n : Nat) : List Char :=
  Nat.toDigits 10 n

/-- The decimal digits of an integer, after a minus sign if it is negative. -/
def showInteger : Int → List Char
  | .ofNat n => showNatural n
  | .negSucc n => '-' :: showNatural (n + 1)

/-- Has an integer too many digits to be written? -/
def isOverlong (n : Int) : Bool :=
  areTooMany (showNatural n.natAbs)

end WebhookRelay.Text
