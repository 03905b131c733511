import WebhookRelay.Pattern.Shape

/-!
# Text patterns

A pattern describes texts by characters, classes, alternatives, groups and repetition.

- `Pattern`: a pattern with its written form.
- `Pattern.searchFrom`: the first place where a shape fits.
- `Pattern.fits`: does a pattern fit somewhere in a text?
-/

namespace WebhookRelay

/-- A pattern with its written form, the number of its groups, and the names that they have. -/
structure Pattern where
  source : String
  shape : Pattern.Shape
  groups : Nat
  names : List (String × Nat)
deriving DecidableEq, Repr

namespace Pattern

/-- Search from a place on, which is `before` and then `after`. With `advance` a fit at the very
first place has to take a character. The result is the place where the fit begins, and the place
where it ends with what it catches. -/
def searchFrom (shape : Shape) (advance : Bool) (before after : List Char) :
    Option (Place × Place) :=
  let p : Place := ⟨before, after, [], []⟩
  let accept (q : Place) := if advance && q.position = p.position then none else some q
  match shape.run accept p with
  | some q => some (p, q)
  | none =>
    match after with
    | [] => none
    | c :: rest => searchFrom shape false (c :: before) rest

/-- Does the pattern fit somewhere in a text? -/
def fits (r : Pattern) (s : String) : Bool :=
  (searchFrom r.shape false [] s.toList).isSome

/-- The place after a fit at the start of a text. -/
def fitAtStart? (r : Pattern) (s : String) : Option Place :=
  r.shape.run some (.start s.toList)

end Pattern

end WebhookRelay
