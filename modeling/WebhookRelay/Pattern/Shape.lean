import WebhookRelay.Pattern.Class

/-!
# Shapes of text

A shape says what a text may look like. Of the ways in which it fits a text, the one preferred is
fixed by the order of its parts: the left alternative before the right, and more repetitions before
fewer unless the repetition is reluctant. A repetition is not tried where the one before it, if that
was optional too, has begun; so one that takes no character can happen once.

- `Shape`: the shapes.
- `Place`: a place in a text, with what the groups have caught.
- `Shape.run`: fit a shape at one place and go on with what follows it.
- `Shape.width`: how many characters a shape can take.
-/

namespace WebhookRelay.Pattern

/-! ## Shapes -/

/-- Conditions on a place in a text. -/
inductive Anchor where
  /-- The start of the text. -/
  | start
  /-- The start of a line. -/
  | lineStart
  /-- The end of the text, or the line end that closes it. -/
  | lastLine
  /-- The end of a line. -/
  | lineEnd
  /-- The very end of the text. -/
  | stop
  /-- A place between a word character and something else, or any other place. An empty text has no
  place of either kind. -/
  | boundary (complement ascii : Bool)
deriving DecidableEq, Repr

/-- Which number of repetitions is preferred. -/
inductive Appetite where
  /-- As many as possible. -/
  | greedy
  /-- As few as possible. -/
  | reluctant
  /-- As many as possible, and none of them is given back. -/
  | possessive
deriving DecidableEq, Repr

/-- What a pattern describes. -/
inductive Shape where
  | empty
  | one (k : Class)
  | anchor (a : Anchor)
  | seq (first second : Shape)
  | either (first second : Shape)
  | many (body : Shape) (least : Nat) (most : Option Nat) (appetite : Appetite)
  | group (number : Nat) (body : Shape)
  /-- The preferred way of the body only. -/
  | atomic (body : Shape)
  /-- The body fits here, or so many characters before; with `negative`, it does not. -/
  | look (behind : Option Nat) (negative : Bool) (body : Shape)
  /-- What a group has caught once more. -/
  | again (number : Nat) (casing : Casing)
  /-- One shape if a group has caught something, and else the other. -/
  | whether (number : Nat) (yes no : Shape)
deriving DecidableEq, Repr

/-! ## Places -/

/-- A place in a text, and the latest places where the groups began and ended on the way there. -/
structure Place where
  /-- The characters before the place, nearest first. -/
  before : List Char
  /-- The characters after the place. -/
  after : List Char
  begun : List (Nat × Nat)
  ended : List (Nat × Nat)
deriving Repr

namespace Place

/-- The start of a text. -/
def start (cs : List Char) : Place := ⟨[], cs, [], []⟩

/-- The number of characters before the place. -/
def position (p : Place) : Nat := p.before.length

/-- The place after the next character. -/
def next? (p : Place) (k : Class) : Option Place :=
  match p.after with
  | c :: rest => if k.has c then some { p with before := c :: p.before, after := rest } else none
  | [] => none

/-- The place after the given characters. -/
def follow? (casing : Casing) : List Char → Place → Option Place
  | [], p => some p
  | c :: cs, p =>
    match p.after with
    | d :: rest =>
      if casing.lower c.toNat = casing.lower d.toNat then
        follow? casing cs { p with before := d :: p.before, after := rest }
      else none
    | [] => none

/-- The place so many characters before. -/
def back? (p : Place) (n : Nat) : Option Place :=
  if n ≤ p.before.length then
    some { p with before := p.before.drop n, after := (p.before.take n).reverse ++ p.after }
  else none

/-- Is the place between a word character and something else? -/
def isBoundary (p : Place) (ascii : Bool) : Bool :=
  p.before.head?.any (Category.word.has ascii) != p.after.head?.any (Category.word.has ascii)

/-- Does a condition hold at the place? -/
def satisfies (p : Place) : Anchor → Bool
  | .start => p.before.isEmpty
  | .lineStart => p.before.isEmpty || p.before.head? = some '\n'
  | .lastLine => p.after.isEmpty || p.after = ['\n']
  | .lineEnd => p.after.isEmpty || p.after.head? = some '\n'
  | .stop => p.after.isEmpty
  | .boundary complement ascii =>
    !(p.before.isEmpty && p.after.isEmpty) && p.isBoundary ascii != complement

/-- The text from the place `first` to the place `last`. -/
def slice (p : Place) (first last : Nat) : List Char :=
  ((p.before.reverse ++ p.after).drop first).take (last - first)

/-- What a group has caught. One that has begun once more after its latest end has caught
nothing. -/
def caught? (p : Place) (number : Nat) : Option (List Char) :=
  match p.begun.lookup number, p.ended.lookup number with
  | some first, some last => if first ≤ last then some (p.slice first last) else none
  | _, _ => none

/-- A group begins here. -/
def beginGroup (p : Place) (number : Nat) : Place :=
  { p with begun := (number, p.position) :: p.begun }

/-- A group ends here. -/
def endGroup (p : Place) (number : Nat) : Place :=
  { p with ended := (number, p.position) :: p.ended }

end Place

/-! ## Fitting -/

/-- Repeat a body: `least` times it must fit, after that it may, up to `most` times in all. The last
optional repetition, if there was one, began at `last`. -/
def runRepeat (body : (Place → Option Place) → Place → Option Place) (reluctant : Bool) :
    (fuel least : Nat) → (most last : Option Nat) → (Place → Option Place) → Place → Option Place
  | 0, _, _, _, k, p => k p
  | fuel + 1, least + 1, most, last, k, p =>
    body (runRepeat body reluctant fuel least (most.map (· - 1)) last k) p
  | fuel + 1, 0, most, last, k, p =>
    let once (_ : Unit) :=
      if most = some 0 || last = some p.position then none
      else body (runRepeat body reluctant fuel 0 (most.map (· - 1)) (some p.position) k) p
    if reluctant then (k p).or (once ()) else (once ()).or (k p)

/-- Repeat a body as often as it fits, each time in its preferred way. -/
def runPossessive (body : Place → Option Place) :
    (fuel least : Nat) → (most last : Option Nat) → Place → Option Place
  | 0, _, _, _, p => some p
  | fuel + 1, least + 1, most, last, p =>
    (body p).bind (runPossessive body fuel least (most.map (· - 1)) last)
  | fuel + 1, 0, most, last, p =>
    if most = some 0 || last = some p.position then some p
    else
      match body p with
      | none => some p
      | some q => runPossessive body fuel 0 (most.map (· - 1)) (some p.position) q

/-- Fit a shape at a place and go on with `k` at the place after it. Of all ways to do both, the
preferred one gives the result. -/
def Shape.run : Shape → (Place → Option Place) → Place → Option Place
  | .empty, k, p => k p
  | .one c, k, p => (p.next? c).bind k
  | .anchor a, k, p => if p.satisfies a then k p else none
  | .seq first second, k, p => first.run (second.run k) p
  | .either first second, k, p => (first.run k p).or (second.run k p)
  | .many body least most appetite, k, p =>
    let fuel := least + p.after.length + 2
    match appetite with
    | .greedy => runRepeat body.run false fuel least most none k p
    | .reluctant => runRepeat body.run true fuel least most none k p
    | .possessive => (runPossessive (body.run some) fuel least most none p).bind k
  | .group number body, k, p => body.run (fun q => k (q.endGroup number)) (p.beginGroup number)
  | .atomic body, k, p => (body.run some p).bind k
  | .look behind negative body, k, p =>
    let place := match behind with | none => some p | some n => p.back? n
    let found := place.bind (body.run some)
    if negative then (if found.isSome then none else k p)
    else found.bind fun q => k { p with begun := q.begun, ended := q.ended }
  | .again number casing, k, p =>
    match p.caught? number with
    | none => none
    | some cs => (p.follow? casing cs).bind k
  | .whether number yes no, k, p =>
    if (p.caught? number).isSome then yes.run k p else no.run k p

/-! ## Width -/

/-- The least and the greatest number of characters that a shape takes. -/
structure Width where
  least : Nat
  most : Option Nat
deriving DecidableEq, Repr

namespace Width

/-- One after the other. -/
def add (v w : Width) : Width :=
  ⟨v.least + w.least, v.most.bind fun m => w.most.map (m + ·)⟩

/-- One or the other. -/
def either (v w : Width) : Width :=
  ⟨min v.least w.least, v.most.bind fun m => w.most.map (max m ·)⟩

/-- The width of a repetition. -/
def many (w : Width) (least : Nat) (most : Option Nat) : Width :=
  ⟨w.least * least,
    match w.most, most with
    | some 0, _ | _, some 0 => some 0
    | some m, some n => some (m * n)
    | _, _ => none⟩

/-- The number of characters, if it is always the same and fits in thirty-two bits. -/
def fixed? (w : Width) : Option Nat :=
  if w.most = some w.least && w.least < 0x100000000 then some w.least else none

end Width

/-- The width of a shape, given that of the groups before it. -/
def Shape.width (known : List (Nat × Width)) : Shape → Width
  | .empty | .anchor _ | .look .. => ⟨0, some 0⟩
  | .one _ => ⟨1, some 1⟩
  | .seq first second => (first.width known).add (second.width known)
  | .either first second => (first.width known).either (second.width known)
  | .many body least most _ => (body.width known).many least most
  | .group _ body | .atomic body => body.width known
  | .again number _ => (known.lookup number).getD ⟨0, none⟩
  | .whether _ yes no => (yes.width known).either (no.width known)

end WebhookRelay.Pattern
