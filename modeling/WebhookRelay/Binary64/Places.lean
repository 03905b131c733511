import WebhookRelay.Binary64.Text

/-!
# Floating-point numbers with a given number of places

Digits are those of the exact value, rounded once; a tie goes to the even neighbour. A number
without a fraction has a point only if it is asked for.

- `Binary64.Style`: positional notation, exponents, or the shorter of the two.
- `Binary64.showPlaces`: the text of a number in a style.
-/

namespace WebhookRelay.Binary64

/-- How a number is written. -/
inductive Style where
  /-- Positional notation, with places after the point. -/
  | positional
  /-- One digit, places after the point, and an exponent. -/
  | exponential
  /-- Significant digits without zeros at the end, with an exponent if the number is very small or
  has more digits before the point. -/
  | general
deriving DecidableEq, Repr

/-- A quotient in positional notation. -/
def positionalDigits (num den places : Nat) : List Char × List Char :=
  let digits := Text.showNatural (roundHalfEven (num * tenTo places) den)
  let digits := List.replicate (places + 1 - digits.length) '0' ++ digits
  (digits.take (digits.length - places), digits.drop (digits.length - places))

/-- The first digits of a quotient, one and as many more as there are places, and the exponent of
the first. -/
def leadingDigits (num den places : Nat) : List Char × Int :=
  if num = 0 then (List.replicate (places + 1) '0', 0)
  else
    let top := decimalExponent num den
    let shift := (places : Int) - top
    let n := roundHalfEven (num * tenTo shift.toNat) (den * tenTo (-shift).toNat)
    if n < tenTo (places + 1) then (Text.showNatural n, top)
    else (Text.showNatural (n / 10), top + 1)

/-- Digits before and after the point. -/
def joinPoint (whole fraction : List Char) (point : Bool) : List Char :=
  if fraction.isEmpty && !point then whole else whole ++ '.' :: fraction

/-- Digits, the first of which has the given exponent, as one digit and a fraction with an
exponent. -/
def joinExponent (digits : List Char) (top : Int) (point : Bool) : List Char :=
  joinPoint (digits.take 1) (digits.drop 1) point ++ 'e' :: NumberFormat.showExponent top

/-- Significant digits in the shorter notation. -/
def joinGeneral (digits : List Char) (top : Int) (point : Bool) : List Char :=
  let trim (cs : List Char) := if point then cs else Text.trimEndBy (· = '0') cs
  if top < -4 || (digits.length : Int) ≤ top then
    joinExponent (digits.take 1 ++ trim (digits.drop 1)) top point
  else if top < 0 then
    joinPoint ['0'] (trim (List.replicate (-top - 1).toNat '0' ++ digits)) point
  else joinPoint (digits.take (top.toNat + 1)) (trim (digits.drop (top.toNat + 1))) point

/-- The text of a number with places. With `point` there is always a point, and zeros at the end
stay. -/
def showPlaces (style : Style) (places : Nat) (point : Bool) (x : Binary64) : List Char :=
  match x.value with
  | .nan => plain.nan.toList
  | .infinite negative => (if negative then ['-'] else []) ++ plain.infinity.toList
  | .finite negative m e =>
    let num := m * twoTo e.toNat
    let den := twoTo (-e).toNat
    let body :=
      match style with
      | .positional =>
        let (whole, fraction) := positionalDigits num den places
        joinPoint whole fraction point
      | .exponential =>
        let (digits, top) := leadingDigits num den places
        joinExponent digits top point
      | .general =>
        let (digits, top) := leadingDigits num den (places - 1)
        joinGeneral digits top point
    (if negative then ['-'] else []) ++ body

end WebhookRelay.Binary64
