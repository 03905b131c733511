import WebhookRelay.Pattern.Reader

/-!
# Replacing what a pattern fits

A replacement is a text in which a backslash and the number of a group, or its number or name in
angle brackets after a `g`, stand for what the group caught; group zero is the whole fit.

- `Replacement.read`: the pieces of a written replacement.
- `Pattern.replaceAll`: replace every fit.
-/

namespace WebhookRelay.Pattern

/-- A piece of a replacement. -/
inductive Piece where
  | char (c : Char)
  | group (number : Nat)
deriving DecidableEq, Repr

/-- A replacement, piece by piece. -/
abbrev Replacement := List Piece

namespace Replacement

/-- What is wrong with a written replacement. -/
inductive Error where
  | malformed
  /-- No group has that name. -/
  | unknownName
deriving DecidableEq, Repr

/-- A group of the pattern. -/
def group (p : Pattern) (number : Nat) : Except Error Piece :=
  if number ≤ p.groups then .ok (.group number) else .error .malformed

/-- A character by its code in octal digits. -/
def octal (digits : List Char) : Except Error Piece :=
  let code := octalValue digits
  if code ≤ 0xFF then .ok (.char (Char.ofNat code)) else .error .malformed

/-- A group by what stands between angle brackets, from what follows the opening one, and the number
of signs that takes. -/
def readNamed (p : Pattern) (rest : List Sign) : Except Error (Piece × Nat) :=
  match readName? '>' rest with
  | none => .error .malformed
  | some name =>
    let length := name.length + 1
    if Text.isIdentifier name then
      match p.names.lookup (String.ofList name), (rest.drop length).head? with
      | _, some .dangling => .error .malformed
      | some number, _ => .ok (.group number, length)
      | none, _ => .error .unknownName
    else
      match Text.readInteger? name with
      | some (.ofNat number) => (group p number).map (·, length)
      | _ => .error .malformed

/-- An escaped digit: the code of a character in octal digits, or the number of a group. -/
def readNumber (p : Pattern) (c : Char) (rest : List Sign) : Except Error (Piece × Nat) :=
  let byOctal (digits : List Char) := (octal digits).map (·, digits.length - 1)
  if c = '0' then byOctal (c :: (leading isOctal rest).take 2)
  else
    match leading Char.isDigit rest with
    | [] => (group p (Text.digitsValue [c])).map (·, 0)
    | d :: more =>
      if isOctal c && isOctal d && more.head?.any isOctal then byOctal (c :: d :: more.take 1)
      else (group p (Text.digitsValue [c, d])).map (·, 1)

/-- The pieces that a sign stands for, and the number of further signs it takes. A letter without a
meaning is refused; before other characters the backslash stands for itself. -/
def readSign (p : Pattern) (s : Sign) (rest : List Sign) : Except Error (Replacement × Nat) :=
  match s with
  | .dangling => .error .malformed
  | .plain c => .ok ([.char c], 0)
  | .escaped 'g' =>
    match rest with
    | .plain '<' :: rest => (readNamed p rest).map fun (piece, n) => ([piece], n + 1)
    | _ => .error .malformed
  | .escaped '\\' => .ok ([.char '\\'], 0)
  | .escaped 'b' => .ok ([.char '\x08'], 0)
  | .escaped c =>
    if c.isDigit then (readNumber p c rest).map fun (piece, n) => ([piece], n)
    else
      match control? c with
      | some d => .ok ([.char d], 0)
      | none => if c.isAlpha then .error .malformed else .ok ([.char '\\', .char c], 0)

/-- The pieces of signs, but not of the first `skip` ones. -/
def readSigns (p : Pattern) : (skip : Nat) → List Sign → Except Error Replacement
  | _, [] => .ok []
  | skip + 1, _ :: rest => readSigns p skip rest
  | 0, s :: rest =>
    match readSign p s rest with
    | .error e => .error e
    | .ok (pieces, n) => (readSigns p n rest).map (pieces ++ ·)

/-- The pieces of a written replacement for a pattern. -/
def read (p : Pattern) (source : String) : Except Error Replacement :=
  readSigns p 0 (signs source.toList)

/-- The text of a replacement for the fit between two places. A group that caught nothing gives
nothing. -/
def fill (r : Replacement) (first last : Place) : List Char :=
  r.flatMap fun
    | .char c => [c]
    | .group 0 => last.slice first.position last.position
    | .group n => (last.caught? n).getD []

end Replacement

/-- Replace the fits from a place on; after an empty fit the next one at the same place has to take
a character. -/
def replaceFrom (shape : Shape) (r : Replacement) :
    (fuel : Nat) → (advance : Bool) → (before after : List Char) → List Char
  | 0, _, _, after => after
  | fuel + 1, advance, before, after =>
    match searchFrom shape advance before after with
    | none => after
    | some (p, q) =>
      after.take (after.length - p.after.length) ++ r.fill p q ++
        replaceFrom shape r fuel (q.position == p.position) q.before q.after

/-- Replace every fit in a text, from left to right. -/
def replaceAll (p : Pattern) (r : Replacement) (s : String) : String :=
  let cs := s.toList
  String.ofList (replaceFrom p.shape r (2 * cs.length + 2) false [] cs)

end WebhookRelay.Pattern
