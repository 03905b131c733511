/-!
# Binary floating point

Numbers of the 64-bit binary format: a sign, eleven exponent bits and fifty-two fraction bits.
Arithmetic works on exact values and rounds once, to the nearest number with ties to even.

- `Binary64.Value`: what the bits stand for, a number or an infinity or no number.
- `Dyadic`: the exact value of a finite number, an integer times a power of two.
- `Binary64.ofRatio`: the nearest number to a quotient of naturals; every rounding goes through it.
- `Binary64.add`, `sub`, `mul`: correctly rounded arithmetic.
- `Binary64.compare?`, `compareInt?`: order, exact also against integers of any size.
-/

namespace WebhookRelay

/-- A power of two. -/
def twoTo (n : Nat) : Nat := Nat.pow 2 n

/-- A power of ten. -/
def tenTo (n : Nat) : Nat := Nat.pow 10 n

/-- An integer times a power of two: the exact value of a finite floating-point number. -/
structure Dyadic where
  scaled : Int
  exponent : Int
deriving DecidableEq, Repr

namespace Dyadic

/-- An integer as it is. -/
def ofInt (n : Int) : Dyadic := ⟨n, 0⟩

/-- The scaled integer of `x` at an exponent not above its own. -/
def scaledAt (x : Dyadic) (e : Int) : Int :=
  x.scaled * twoTo (x.exponent - e).toNat

/-- Exact order. -/
def compare (x y : Dyadic) : Ordering :=
  let e := min x.exponent y.exponent
  Ord.compare (x.scaledAt e) (y.scaledAt e)

/-- Exact sum. -/
def add (x y : Dyadic) : Dyadic :=
  let e := min x.exponent y.exponent
  ⟨x.scaledAt e + y.scaledAt e, e⟩

/-- Exact product. -/
def mul (x y : Dyadic) : Dyadic :=
  ⟨x.scaled * y.scaled, x.exponent + y.exponent⟩

/-- Is the value an integer? -/
def isInteger (x : Dyadic) : Bool :=
  x.exponent ≥ 0 || x.scaled % twoTo (-x.exponent).toNat = 0

/-- The integer next to the value on the side of zero. -/
def truncate (x : Dyadic) : Int :=
  if x.exponent ≥ 0 then x.scaled * twoTo x.exponent.toNat
  else x.scaled.tdiv (twoTo (-x.exponent).toNat)

end Dyadic

/-- A 64-bit binary floating-point number, by its bits. -/
structure Binary64 where
  bits : UInt64
deriving DecidableEq, Repr, Inhabited

namespace Binary64

/-- What the bits stand for. The sign of a finite number is kept apart because of the two zeros. -/
inductive Value where
  /-- No number. -/
  | nan
  /-- An infinity. -/
  | infinite (negative : Bool)
  /-- `significand * 2 ^ exponent`, negated if so marked. -/
  | finite (negative : Bool) (significand : Nat) (exponent : Int)
deriving DecidableEq, Repr

/-- The sign bit. -/
def signBit (negative : Bool) : Nat :=
  if negative then twoTo 63 else 0

/-- Decode the three fields. Exponent field zero marks the subnormal numbers, which share the least
exponent and have no implicit leading bit; the greatest marks infinities and non-numbers. -/
def value (x : Binary64) : Value :=
  let n := x.bits.toNat
  let negative := n / twoTo 63 = 1
  let field : Nat := n / twoTo 52 % twoTo 11
  let fraction : Nat := n % twoTo 52
  if field = 2047 then
    if fraction = 0 then .infinite negative else .nan
  else if field = 0 then .finite negative fraction (-1074)
  else .finite negative (twoTo 52 + fraction) ((field : Int) - 1075)

/-- The non-number. -/
def nan : Binary64 := ⟨0x7FF8000000000000⟩

/-- An infinity. -/
def infinity (negative : Bool) : Binary64 :=
  ⟨.ofNat (signBit negative + 2047 * twoTo 52)⟩

/-- A zero. -/
def zero (negative : Bool) : Binary64 :=
  ⟨.ofNat (signBit negative)⟩

/-! ## Rounding -/

/-- The integer nearest to a quotient; a tie goes to the even neighbour. -/
def roundHalfEven (num den : Nat) : Nat :=
  let q := num / den
  let r := num % den
  if 2 * r < den then q else if den < 2 * r then q + 1 else q + q % 2

/-- A quotient of naturals in units of `2 ^ e`, as numerator and denominator. -/
def inUnits (num den : Nat) (e : Int) : Nat × Nat :=
  if e ≥ 0 then (num, den * twoTo e.toNat) else (num * twoTo (-e).toNat, den)

/-- The exponent of the unit in the last place for a quotient: the quotient has fifty-three bits in
that unit, unless it lies so low that the least exponent is used. -/
def unitExponent (num den : Nat) : Int :=
  let e := (num.log2 : Int) - den.log2 - 52
  let (n, d) := inUnits num den e
  max (if n / d < twoTo 52 then e - 1 else e) (-1074)

/-- The number nearest to `num / den`; ties go to the even neighbour, and what would need a larger
exponent is infinite. A significand that rounds up to the next power of two carries into the
exponent field by itself. -/
def ofRatio (negative : Bool) (num den : Nat) : Binary64 :=
  if num = 0 then zero negative
  else
    let e := unitExponent num den
    let (n, d) := inUnits num den e
    let magnitude := (e + 1074).toNat * twoTo 52 + roundHalfEven n d
    if magnitude ≥ 2047 * twoTo 52 then infinity negative
    else ⟨.ofNat (signBit negative + magnitude)⟩

/-- The number nearest to an exact value; `zeroSign` is the sign of a zero result. -/
def ofDyadic (zeroSign : Bool) (x : Dyadic) : Binary64 :=
  if x.scaled = 0 then zero zeroSign
  else if x.exponent ≥ 0 then
    ofRatio (x.scaled < 0) (x.scaled.natAbs * twoTo x.exponent.toNat) 1
  else ofRatio (x.scaled < 0) x.scaled.natAbs (twoTo (-x.exponent).toNat)

/-- The number nearest to an integer, or nothing if that is out of range. -/
def ofInt? (n : Int) : Option Binary64 :=
  let x := ofRatio (n < 0) n.natAbs 1
  match x.value with
  | .finite .. => some x
  | _ => none

/-- The number nearest to `± digits * 10 ^ exponent`. Values far outside the range are settled
without computing the power. -/
def ofDecimal (negative : Bool) (digits : Nat) (exponent : Int) : Binary64 :=
  let size := (Nat.toDigits 10 digits).length
  if digits = 0 then zero negative
  else if exponent + size > 400 then infinity negative
  else if exponent + size < -400 then zero negative
  else if exponent ≥ 0 then ofRatio negative (digits * tenTo exponent.toNat) 1
  else ofRatio negative digits (tenTo (-exponent).toNat)

/-! ## Exact values and order -/

/-- The exact value of a finite number. -/
def toDyadic? (x : Binary64) : Option Dyadic :=
  match x.value with
  | .finite negative m e => some ⟨if negative then -(m : Int) else m, e⟩
  | _ => none

/-- Is it one of the two zeros? -/
def isZero (x : Binary64) : Bool :=
  match x.value with
  | .finite _ 0 _ => true
  | _ => false

/-- Is it a finite number without a fractional part? -/
def isInteger (x : Binary64) : Bool :=
  match x.toDyadic? with
  | some d => d.isInteger
  | none => false

/-- The order of two numbers; a non-number has none. -/
def compare? (x y : Binary64) : Option Ordering :=
  match x.value, y.value with
  | .nan, _ | _, .nan => none
  | .infinite a, .infinite b => some (if a = b then .eq else if a then .lt else .gt)
  | .infinite a, _ => some (if a then .lt else .gt)
  | _, .infinite b => some (if b then .gt else .lt)
  | .finite a m e, .finite b n f =>
    some (Dyadic.compare ⟨if a then -(m : Int) else m, e⟩ ⟨if b then -(n : Int) else n, f⟩)

/-- The order of an integer and a number, decided on exact values. -/
def compareInt? (n : Int) (y : Binary64) : Option Ordering :=
  match y.value with
  | .nan => none
  | .infinite b => some (if b then .gt else .lt)
  | .finite b m e => some (Dyadic.compare (.ofInt n) ⟨if b then -(m : Int) else m, e⟩)

/-! ## Arithmetic -/

/-- The other sign. -/
def neg (x : Binary64) : Binary64 :=
  match x.value with
  | .nan => nan
  | _ => ⟨x.bits ^^^ 0x8000000000000000⟩

/-- The rounded sum. A sum of zero is negative only if both operands are. -/
def add (x y : Binary64) : Binary64 :=
  match x.value, y.value with
  | .nan, _ | _, .nan => nan
  | .infinite a, .infinite b => if a = b then x else nan
  | .infinite _, _ => x
  | _, .infinite _ => y
  | .finite a m e, .finite b n f =>
    ofDyadic (a && b)
      (Dyadic.add ⟨if a then -(m : Int) else m, e⟩ ⟨if b then -(n : Int) else n, f⟩)

/-- The rounded difference. -/
def sub (x y : Binary64) : Binary64 :=
  x.add y.neg

/-- The rounded product. Its sign is that of the signs, also when it is zero. -/
def mul (x y : Binary64) : Binary64 :=
  match x.value, y.value with
  | .nan, _ | _, .nan => nan
  | .infinite a, .infinite b => infinity (a != b)
  | .infinite a, .finite b n _ => if n = 0 then nan else infinity (a != b)
  | .finite a m _, .infinite b => if m = 0 then nan else infinity (a != b)
  | .finite a m e, .finite b n f =>
    ofDyadic (a != b)
      (Dyadic.mul ⟨if a then -(m : Int) else m, e⟩ ⟨if b then -(n : Int) else n, f⟩)

end Binary64

end WebhookRelay
