import WebhookRelay.Json

/-!
# Comparing values

Numbers compare by value, whatever their kind, and the booleans count as zero and one. Texts compare
by code point, arrays item by item. Other values have no order, but all values can be tested for
sameness; objects are the same if they have the same members in any order.

- `Json.Number`, `Json.number?`: the numeric reading of a value.
- `Json.same`: sameness.
- `Json.less?`: order, where there is one.
-/

namespace WebhookRelay.Json

/-- A number of either kind. -/
inductive Number where
  | int (n : Int)
  | float (x : Binary64)

/-- The numeric reading of a value; the booleans count as zero and one. -/
def number? : Json → Option Number
  | .bool b => some (.int (if b then 1 else 0))
  | .int n => some (.int n)
  | .float x => some (.float x)
  | _ => none

/-- The order of two numbers, on exact values. A non-number has none. -/
def Number.compare? : Number → Number → Option Ordering
  | .int m, .int n => some (compare m n)
  | .int m, .float y => Binary64.compareInt? m y
  | .float x, .int n => (Binary64.compareInt? n x).map Ordering.swap
  | .float x, .float y => x.compare? y

/-- Is the value the floating-point value that is no number? -/
def isNonNumber : Json → Bool
  | .float x => x.value = .nan
  | _ => false

mutual

/-- Are two values the same? A non-number on its own differs from itself, but inside arrays and
objects all non-numbers are the same. -/
def same : Json → Json → Bool
  | .null, .null => true
  | .string s, .string t => s == t
  | .array xs, .array ys => sameItems xs ys
  | .object xs, .object ys => xs.length == ys.length && sameFields xs ys
  | x, y =>
    match x.number?, y.number? with
    | some a, some b => a.compare? b == some .eq
    | _, _ => false

/-- Are two arrays the same, item by item? -/
def sameItems : List Json → List Json → Bool
  | [], [] => true
  | x :: xs, y :: ys => (isNonNumber x && isNonNumber y || same x y) && sameItems xs ys
  | _, _ => false

/-- Is each of the members the same in the other object? -/
def sameFields : List (String × Json) → List (String × Json) → Bool
  | [], _ => true
  | (k, x) :: xs, ys =>
    (match ys.lookup k with
      | some y => isNonNumber x && isNonNumber y || same x y
      | none => false) && sameFields xs ys

end

mutual

/-- Is the first value less than the second? Nothing, if they have no order. -/
def less? : Json → Json → Option Bool
  | .string s, .string t => some (s < t)
  | .array xs, .array ys => lessItems? xs ys
  | x, y =>
    match x.number?, y.number? with
    | some a, some b => some (a.compare? b == some .lt)
    | _, _ => none

/-- Arrays are ordered by the first items that are not the same, and a proper prefix comes first. -/
def lessItems? : List Json → List Json → Option Bool
  | _, [] => some false
  | [], _ :: _ => some true
  | x :: xs, y :: ys =>
    if isNonNumber x && isNonNumber y || same x y then lessItems? xs ys else less? x y

end

end WebhookRelay.Json
