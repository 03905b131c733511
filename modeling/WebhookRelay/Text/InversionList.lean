/-!
# Inversion lists

A set of code points written as the ascending list of positions where membership changes: the first
bound opens the set, the second closes it, and so on. Unicode properties are stored in this form.

- `InversionList.contains`: membership of a character.
- `InversionList.meets`: does an interval have a member?
-/

namespace WebhookRelay.Text

/-- A set of code points, given by the ascending positions where membership changes. -/
structure InversionList where
  bounds : List Nat

namespace InversionList

/-- Walk the bounds up to `n`; `inside` says whether the positions before the next bound belong. -/
def containsFrom (inside : Bool) : List Nat → Nat → Bool
  | [], _ => inside
  | b :: bs, n => if n < b then inside else containsFrom (!inside) bs n

/-- Is a code point in the set? -/
def containsCode (s : InversionList) (n : Nat) : Bool :=
  containsFrom false s.bounds n

/-- Is one of the code points from `first` to `last` in the set? -/
def meets (s : InversionList) (first last : Nat) : Bool :=
  s.containsCode first || s.bounds.any fun b => first < b && b ≤ last

/-- Is the character in the set? -/
def contains (s : InversionList) (c : Char) : Bool :=
  s.containsCode c.toNat

end InversionList

end WebhookRelay.Text
