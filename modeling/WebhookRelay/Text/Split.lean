/-!
# Cutting texts at a separator

- `splitChars`: the parts between separators, found from left to right without overlap.
- `split`: the same on texts.
-/

namespace WebhookRelay.Text

/-- The parts of a list between separators, after at most `limit` cuts. The first `skip` characters
belong to a separator, and `part` holds what the current part has so far, latest first. -/
def splitFrom (separator : List Char) :
    (limit : Option Nat) → (skip : Nat) → (part : List Char) → List Char → List (List Char)
  | _, _, part, [] => [part.reverse]
  | limit, skip + 1, part, _ :: rest => splitFrom separator limit skip part rest
  | limit, 0, part, c :: rest =>
    if limit != some 0 && separator.isPrefixOf (c :: rest) then
      part.reverse :: splitFrom separator (limit.map (· - 1)) (separator.length - 1) [] rest
    else splitFrom separator limit 0 (c :: part) rest

/-- The parts of a list between separators that are not empty, after at most `limit` cuts. -/
def splitChars (separator : List Char) (limit : Option Nat) (cs : List Char) : List (List Char) :=
  splitFrom separator limit 0 [] cs

/-- The parts of a text between separators that are not empty, after at most `limit` cuts. -/
def split (separator : String) (limit : Option Nat) (s : String) : List String :=
  (splitChars separator.toList limit s.toList).map String.ofList

end WebhookRelay.Text
