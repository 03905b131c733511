import WebhookRelay.Binary64.Shortest
import WebhookRelay.Text.Integer

/-!
# Floating-point numbers as text

- `NumberFormat`: the decisions of a format, over the shortest digits.
- `NumberFormat.show`: the text of a number in a format.
- `plain`: the format of messages and selected values.
- `interchange`: the format inside JSON, which differs in the names of the odd values.
- `readNumeric?`: the number that a text denotes, as settings accept it.
-/

namespace WebhookRelay

/-- The decisions of a number format: which decimal exponents are written out in positional
notation, and the names of the values that have no digits. -/
structure NumberFormat where
  leastPositional : Int
  firstExponential : Int
  nan : String
  infinity : String

namespace NumberFormat

/-- The exponent after `e`: a sign and at least two digits. -/
def showExponent (e : Int) : List Char :=
  let digits := Text.showNatural e.natAbs
  (if e < 0 then '-' else '+') :: (if digits.length < 2 then '0' :: digits else digits)

/-- Put a point after the first digit, unless it is the only one. -/
def withPoint : List Char → List Char
  | [] => []
  | [d] => [d]
  | d :: ds => d :: '.' :: ds

/-- Significant digits whose first has the weight `10 ^ top`, without a sign. Positional notation
always has a point and a digit on both sides of it. -/
def showDigits (f : NumberFormat) (digits : List Char) (top : Int) : List Char :=
  if f.leastPositional ≤ top && top < f.firstExponential then
    if top < 0 then '0' :: '.' :: List.replicate (-top - 1).toNat '0' ++ digits
    else
      let whole := top.toNat + 1
      let padding := List.replicate (whole - digits.length) '0'
      let fraction := digits.drop whole
      digits.take whole ++ padding ++ '.' :: (if fraction.isEmpty then ['0'] else fraction)
  else withPoint digits ++ 'e' :: showExponent top

/-- The text of a number. -/
def «show» (f : NumberFormat) (x : Binary64) : List Char :=
  match x.value with
  | .nan => f.nan.toList
  | .infinite negative => (if negative then ['-'] else []) ++ f.infinity.toList
  | .finite negative m e =>
    let body :=
      if m = 0 then f.showDigits ['0'] 0
      else
        let (d, p) := Binary64.shortest m e
        let digits := Text.showNatural d
        f.showDigits (Text.trimEndBy (· = '0') digits) (p + digits.length - 1)
    (if negative then ['-'] else []) ++ body

end NumberFormat

namespace Binary64

/-- Messages and selected values: positional from a ten-thousandth up to sixteen digits. -/
def plain : NumberFormat := ⟨-4, 16, "nan", "inf"⟩

/-- Inside JSON the same digits are used, and the odd values have their longer names. -/
def interchange : NumberFormat := ⟨-4, 16, "NaN", "Infinity"⟩

/-- The text of a number in messages. -/
def toText (x : Binary64) : String :=
  String.ofList (plain.show x)

/-! ## Reading -/

/-- Read an exponent: a mark, an optional sign and ASCII digits. -/
def readExponent? : List Char → Option Int
  | [] => some 0
  | c :: rest =>
    if c = 'e' || c = 'E' then
      let (negative, digits) :=
        match rest with
        | '-' :: ds => (true, ds)
        | '+' :: ds => (false, ds)
        | ds => (false, ds)
      if digits.isEmpty || !digits.all Char.isDigit then none
      else
        let n := Text.digitsValue digits
        some (if negative then -(n : Int) else n)
    else none

/-- Read an unsigned number: digits, optionally a point, digits, and optionally an exponent, with
at least one digit before or after the point. -/
def readUnsigned? (negative : Bool) (cs : List Char) : Option Binary64 :=
  let whole := cs.takeWhile Char.isDigit
  let rest := cs.dropWhile Char.isDigit
  let (fraction, rest) :=
    match rest with
    | '.' :: more => (more.takeWhile Char.isDigit, more.dropWhile Char.isDigit)
    | _ => ([], rest)
  if whole.isEmpty && fraction.isEmpty then none
  else
    (readExponent? rest).map fun e =>
      ofDecimal negative (Text.digitsValue (whole ++ fraction)) (e - fraction.length)

/-- The named values, in any letter case. -/
def readNamed? (negative : Bool) (cs : List Char) : Option Binary64 :=
  let name := String.ofList (cs.map Char.toLower)
  if name = "inf" || name = "infinity" then some (infinity negative)
  else if name = "nan" then some nan
  else none

/-- The number that a numeric text denotes, if it denotes one. -/
def readNumeric? (cs : List Char) : Option Binary64 :=
  let (negative, body) :=
    match cs with
    | '-' :: rest => (true, rest)
    | '+' :: rest => (false, rest)
    | _ => (false, cs)
  (readNamed? negative body).or (readUnsigned? negative body)

end Binary64

end WebhookRelay
