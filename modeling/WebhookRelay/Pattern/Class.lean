import WebhookRelay.Text.Blank
import WebhookRelay.Text.Digit
import WebhookRelay.Text.SameLetter
import WebhookRelay.Text.Word

/-!
# Classes of characters

A class holds the characters of its members, or all others. It may be asked to look through letter
case; then a character belongs to it if some character that is the same letter does.

- `Casing`: whether letter case matters.
- `Category`, `Member`, `Class`: sets of characters.
- `Class.has`: does a class hold a character?
-/

namespace WebhookRelay.Pattern

/-! ## Letter case -/

/-- Which letters count as the same in either case. -/
inductive Casing where
  | exact
  /-- Those of ASCII only. -/
  | ascii
  | full
deriving DecidableEq, Repr

namespace Casing

/-- The letters of ASCII. -/
def asciiLetters : Text.InversionList where
  bounds := [0x41, 0x5B, 0x61, 0x7B]

/-- A code point without its case. -/
def lower : Casing → Nat → Nat
  | .exact, n => n
  | .ascii, n => if 0x41 ≤ n && n ≤ 0x5A then n + 0x20 else n
  | .full, n => Text.lowerCode n

/-- The code points that are the same letter as a lower-case one. -/
def same : Casing → Nat → List Nat
  | .exact, n => [n]
  | .ascii, n => if 0x61 ≤ n && n ≤ 0x7A then [n, n - 0x20] else [n]
  | .full, n => Text.sameLetter n

/-- Does an interval hold a letter that has another case? Beyond the first plane every interval
counts as if it did. -/
def meets (casing : Casing) (first last : Nat) : Bool :=
  match casing with
  | .exact => false
  | .ascii => 0xFFFF < last || asciiLetters.meets first last
  | .full => 0xFFFF < last || Text.cased.meets first last

end Casing

/-! ## Classes -/

/-- The named categories of characters. -/
inductive Category where
  | digit
  | blank
  | word
deriving DecidableEq, Repr

/-- Does a character belong to a named category, or to the part of it in ASCII? -/
def Category.has (ascii : Bool) : Category → Char → Bool
  | .digit, c => if ascii then c.isDigit else Text.isDecimal c
  | .blank, c => if ascii then c.toNat < 0x80 && Text.isWhiteSpace c else Text.isBlank c
  | .word, c => (!ascii || c.toNat < 0x80) && Text.isWord c

/-- A member of a class: an interval of code points, or a category or its complement. -/
inductive Member where
  | range (first last : Nat)
  | category (kind : Category) (complement ascii : Bool)
deriving DecidableEq, Repr

/-- Does a member hold a character in exactly this case? -/
def Member.has : Member → Char → Bool
  | .range first last, c => first ≤ c.toNat && c.toNat ≤ last
  | .category kind complement ascii, c => kind.has ascii c != complement

/-- Does a member hold a character that is the same letter as a lower-case one? -/
def Member.hasLetter (casing : Casing) : Member → Char → Bool
  | .range first last, c => (casing.same c.toNat).any fun n => first ≤ n && n ≤ last
  | m, c => m.has c

/-- Does letter case make a difference to a member? -/
def Member.isCased (casing : Casing) : Member → Bool
  | .range first last => casing.meets first last
  | .category .. => false

/-- A set of characters: those of its members, or all the others. -/
structure Class where
  complement : Bool
  members : List Member
  casing : Casing
deriving DecidableEq, Repr

namespace Class

/-- Does the class hold a character? -/
def has (k : Class) (c : Char) : Bool :=
  let found :=
    if k.members.any (·.isCased k.casing) then
      k.members.any (·.hasLetter k.casing (Char.ofNat (k.casing.lower c.toNat)))
    else k.members.any (·.has c)
  found != k.complement

/-- The class of all characters. -/
def all : Class := ⟨true, [], .exact⟩

/-- The class of all characters but the line end. -/
def notLineEnd : Class := ⟨true, [.range 0x0A 0x0A], .exact⟩

end Class

end WebhookRelay.Pattern
