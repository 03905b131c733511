import WebhookRelay.Binary64

/-!
# Shortest decimal digits

The fewest decimal digits that single a floating-point number out. A decimal reads back as a number
`m * 2 ^ e` exactly if it lies in the number's rounding interval, whose ends are half way to its
neighbours and belong to it if `m` is even. If a decimal grid has a point in the interval, then one
of the two grid points next to the number is such a point, so it is enough to try those.

- `Interval`: the number and its rounding interval over a common denominator.
- `Interval.digitsOn?`: the digits on one grid, if it has a point in the interval.
- `shortest`: the digits on the coarsest grid that has one.
-/

namespace WebhookRelay.Binary64

/-- A positive number and its rounding interval: `low ≤ number ≤ high` over `denominator`, with the
ends in the interval if it is closed. -/
structure Interval where
  low : Nat
  number : Nat
  high : Nat
  denominator : Nat
  closed : Bool

namespace Interval

/-- The interval of `m * 2 ^ e`. The neighbour below a power of two is only half as far away,
unless the number has the least exponent. -/
def ofFinite (m : Nat) (e : Int) : Interval :=
  let below := if m = twoTo 52 ∧ e ≠ -1074 then 1 else 2
  let scale := if e ≥ 0 then twoTo e.toNat else 1
  let denominator := if e ≥ 0 then 4 else 4 * twoTo (-e).toNat
  ⟨(4 * m - below) * scale, 4 * m * scale, (4 * m + 2) * scale, denominator, m % 2 = 0⟩

/-- Does the decimal `d * 10 ^ p` lie in the interval? -/
def contains (i : Interval) (d : Nat) (p : Int) : Bool :=
  let point := d * i.denominator * tenTo p.toNat
  let shift := tenTo (-p).toNat
  if i.closed then i.low * shift ≤ point && point ≤ i.high * shift
  else i.low * shift < point && point < i.high * shift

/-- The digits on the grid of step `10 ^ p`, if it has a point in the interval: the nearer of the
two points next to the number, a tie going to the even digit. -/
def digitsOn? (i : Interval) (p : Int) : Option Nat :=
  let num := i.number * tenTo (-p).toNat
  let den := i.denominator * tenTo p.toNat
  let below := num / den
  match i.contains below p, i.contains (below + 1) p with
  | true, true => some (roundHalfEven num den)
  | true, false => some below
  | false, true => some (below + 1)
  | false, false => none

end Interval

/-- The exponent of the leading decimal digit of a positive quotient. -/
def decimalExponent (num den : Nat) : Int :=
  if den ≤ num then ((Nat.toDigits 10 (num / den)).length : Int) - 1
  else
    let size := (Nat.toDigits 10 (den / num)).length
    if den ≤ num * tenTo (size - 1) then -((size : Int) - 1) else -(size : Int)

/-- The first of `count` more digit counts, from `n` on, whose grid has a point in the interval. -/
def firstGrid (i : Interval) (top : Int) : (count n : Nat) → Nat × Int
  | 0, n => ((i.digitsOn? (top - n + 1)).getD 0, top - n + 1)
  | count + 1, n =>
    match i.digitsOn? (top - n + 1) with
    | some d => (d, top - n + 1)
    | none => firstGrid i top count (n + 1)

/-- The fewest digits that single out `m * 2 ^ e`, as an integer and a power of ten. Seventeen are
always enough. -/
def shortest (m : Nat) (e : Int) : Nat × Int :=
  let i := Interval.ofFinite m e
  firstGrid i (decimalExponent i.number i.denominator) 16 1

end WebhookRelay.Binary64
