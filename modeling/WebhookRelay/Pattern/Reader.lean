import WebhookRelay.Pattern
import WebhookRelay.Text.Identifier
import WebhookRelay.Text.Integer

/-!
# Reading patterns

A pattern is cut into signs, single characters with or without a backslash, and read sign by sign
with a stack of open groups. Marks between a parenthesis and a question mark set flags for the rest
of the group, or for the whole pattern if they stand at its very start.

- `Sign`: a character with or without a backslash.
- `Flags`: how the signs are to be understood.
- `Assembly`: what has been read; `Assembly.read` reads on.
- `Pattern.read`: the pattern that a text describes, or what is wrong with it.
-/

namespace WebhookRelay.Pattern

/-- What is wrong with a written pattern. -/
inductive ReadError where
  | malformed
  /-- The number of repetitions does not fit in thirty-two bits. -/
  | countTooLarge
  /-- Flags ask both for all letters and for those of ASCII only. -/
  | conflictingFlags
deriving DecidableEq, Repr

/-! ## Signs -/

/-- A character of a written pattern. -/
inductive Sign where
  | plain (c : Char)
  /-- A character after a backslash. -/
  | escaped (c : Char)
  /-- A backslash at the very end. -/
  | dangling
deriving DecidableEq, Repr

/-- The signs of a text. -/
def signs : List Char → List Sign
  | [] => []
  | '\\' :: c :: rest => .escaped c :: signs rest
  | ['\\'] => [.dangling]
  | c :: rest => .plain c :: signs rest

/-- The character of a sign without a backslash. -/
def Sign.plain? : Sign → Option Char
  | .plain c => some c
  | _ => none

/-- The plain characters of a sort at the front. -/
def leading (test : Char → Bool) : List Sign → List Char
  | .plain c :: rest => if test c then c :: leading test rest else []
  | _ => []

/-- The signs before the first one that is a certain character; there has to be one. -/
def readUntil? (stop : Char) (ss : List Sign) : Option (List Sign) :=
  let taken := ss.takeWhile (· ≠ .plain stop)
  if taken.length < ss.length then some taken else none

/-- A name that ends at a certain character. -/
def readName? (stop : Char) (ss : List Sign) : Option (List Char) :=
  match (readUntil? stop ss).bind (·.mapM Sign.plain?) with
  | some [] => none
  | name => name

/-! ## Escapes -/

/-- The control characters that have a letter. -/
def control? : Char → Option Char
  | 'a' => some '\x07'
  | 'f' => some '\x0c'
  | 'n' => some '\n'
  | 'r' => some '\r'
  | 't' => some '\t'
  | 'v' => some '\x0b'
  | _ => none

/-- The named category of a letter; a capital stands for the complement. -/
def category? (ascii : Bool) : Char → Option Member
  | 'd' => some (.category .digit false ascii)
  | 'D' => some (.category .digit true ascii)
  | 's' => some (.category .blank false ascii)
  | 'S' => some (.category .blank true ascii)
  | 'w' => some (.category .word false ascii)
  | 'W' => some (.category .word true ascii)
  | _ => none

/-- The condition of a letter. -/
def anchor? (ascii : Bool) : Char → Option Anchor
  | 'A' => some .start
  | 'Z' => some .stop
  | 'b' => some (.boundary false ascii)
  | 'B' => some (.boundary true ascii)
  | _ => none

/-- An octal digit. -/
def isOctal (c : Char) : Bool := '0' ≤ c && c ≤ '7'

/-- The number that octal digits write. -/
def octalValue (digits : List Char) : Nat :=
  digits.foldl (fun n c => 8 * n + (c.toNat - '0'.toNat)) 0

/-- A code given by exactly `width` hexadecimal digits, and the number of signs that takes. -/
def readCode? (width : Nat) (ss : List Sign) : Option (Nat × Nat) :=
  let digits := (leading (fun c => (Text.hexValue? c).isSome) ss).take width
  let code := digits.foldl (fun n d => 16 * n + (Text.hexValue? d).getD 0) 0
  if digits.length = width && code ≤ 0x10FFFF then some (code, width) else none

/-- The code point that an escaped character stands for, and the number of further signs that takes.
Letters and digits without a meaning of their own are refused. -/
def readEscape? (c : Char) (rest : List Sign) : Option (Nat × Nat) :=
  match c with
  | 'x' => readCode? 2 rest
  | 'u' => readCode? 4 rest
  | 'U' => readCode? 8 rest
  | c =>
    match control? c with
    | some d => some (d.toNat, 0)
    | none => if c.isAlphanum then none else some (c.toNat, 0)

/-! ## Classes -/

/-- One character or category inside a class, and the number of signs it takes. -/
def readMember? (ascii : Bool) : List Sign → Option (Member × Nat)
  | .plain c :: _ => some (.range c.toNat c.toNat, 1)
  | .escaped c :: rest =>
    if c = 'b' then some (.range 0x08 0x08, 1)
    else if isOctal c then
      let digits := c :: (leading isOctal rest).take 2
      let code := octalValue digits
      if code ≤ 0xFF then some (.range code code, digits.length) else none
    else
      match category? ascii c with
      | some m => some (m, 1)
      | none => (readEscape? c rest).map fun (code, n) => (.range code code, n + 1)
  | _ => none

/-- Join two ends to an interval. -/
def interval? : Member → Member → Option Member
  | .range a _, .range b _ => if a ≤ b then some (.range a b) else none
  | _, _ => none

/-- One member of a class with the number of signs it takes: an interval where a dash stands between
two ends. -/
def readRange? (ascii : Bool) (ss : List Sign) : Option (Member × Nat) :=
  match readMember? ascii ss with
  | none => none
  | some (first, n) =>
    match ss.drop n with
    | .plain '-' :: .plain ']' :: _ => some (first, n)
    | .plain '-' :: rest =>
      match readMember? ascii rest with
      | none => none
      | some (last, m) => (interval? first last).map (·, n + 1 + m)
    | _ => some (first, n)

/-- The members of a class up to its closing bracket, and the number of signs they take with it. A
bracket that comes first is a member. -/
def readMembers? (ascii : Bool) : (fuel : Nat) → (first : Bool) → List Sign →
    Option (List Member × Nat)
  | 0, _, _ => none
  | fuel + 1, first, ss =>
    if !first && ss.head? = some (.plain ']') then some ([], 1)
    else
      match readRange? ascii ss with
      | none => none
      | some (m, n) =>
        (readMembers? ascii fuel false (ss.drop n)).map fun (ms, k) => (m :: ms, n + k)

/-- Whether a class is a complement, its members, and the number of signs that takes, from what
follows its opening bracket. -/
def readClass? (ascii : Bool) (ss : List Sign) : Option (Bool × List Member × Nat) :=
  match ss with
  | .plain '^' :: rest =>
    (readMembers? ascii (rest.length + 1) true rest).map fun (ms, n) => (true, ms, n + 1)
  | _ => (readMembers? ascii (ss.length + 1) true ss).map fun (ms, n) => (false, ms, n)

/-! ## Repetitions -/

/-- The bounds of a repetition, from what follows its opening brace: what is not of that form is no
repetition at all. -/
def readBounds? (ss : List Sign) : Option (Nat × Option Nat × Nat) :=
  let low := leading Char.isDigit ss
  let least := Text.digitsValue low
  match ss.drop low.length with
  | .plain '\x7d' :: _ => if low.isEmpty then none else some (least, some least, low.length + 1)
  | .plain ',' :: rest =>
    let high := leading Char.isDigit rest
    match rest.drop high.length with
    | .plain '\x7d' :: _ =>
      some (least, if high.isEmpty then none else some (Text.digitsValue high),
        low.length + high.length + 2)
    | _ => none
  | _ => none

/-- The mark after a repetition, and the number of signs it takes. -/
def readAppetite : List Sign → Appetite × Nat
  | .plain '?' :: _ => (.reluctant, 1)
  | .plain '+' :: _ => (.possessive, 1)
  | _ => (.greedy, 0)

/-! ## Flags -/

/-- How the signs of a group are to be understood. -/
structure Flags where
  /-- Letters fit in either case. -/
  ignoreCase : Bool
  /-- The start and the end of each line count as such. -/
  lines : Bool
  /-- The point fits line ends too. -/
  dotAll : Bool
  /-- Blanks and comments are skipped. -/
  spaced : Bool
  /-- Categories and letter case are those of ASCII. -/
  ascii : Bool
deriving DecidableEq, Repr

namespace Flags

/-- No flag is set. -/
def none : Flags := ⟨false, false, false, false, false⟩

/-- The flags after the mark of one is switched on or off. -/
def switch (on : Bool) (f : Flags) : Char → Flags
  | 'i' => { f with ignoreCase := on }
  | 'm' => { f with lines := on }
  | 's' => { f with dotAll := on }
  | 'x' => { f with spaced := on }
  | 'a' => { f with ascii := on }
  | 'u' => { f with ascii := !on }
  | _ => f

/-- How letter case matters. -/
def casing (f : Flags) : Casing :=
  if f.ignoreCase then (if f.ascii then .ascii else .full) else .exact

/-- One character of a class. -/
def one (f : Flags) (complement : Bool) (members : List Member) : Shape :=
  .one ⟨complement, members, f.casing⟩

/-- One certain character. -/
def char (f : Flags) (code : Nat) : Shape := f.one false [.range code code]

/-- Any character at all, or any but a line end. -/
def point (f : Flags) : Shape := .one (if f.dotAll then .all else .notLineEnd)

/-- The start of the text or of a line. -/
def caret (f : Flags) : Anchor := if f.lines then .lineStart else .start

/-- The end of the text or of a line. -/
def dollar (f : Flags) : Anchor := if f.lines then .lineEnd else .lastLine

end Flags

/-- Marks of flags that are switched. -/
structure Switches where
  /-- Do they hold for the whole pattern, and not for a group? -/
  whole : Bool
  on : List Char
  off : List Char
deriving Repr

/-- Is the character the mark of a flag? -/
def isFlag (c : Char) : Bool := ['i', 'L', 'm', 's', 'x', 'a', 'u', 't'].contains c

/-- Can the switches be used? The letters of bytes are never understood, ASCII and all letters
exclude each other and cannot be switched off, and the mark `t` is for whole patterns only. -/
def Switches.areUsable (s : Switches) : Bool :=
  !s.on.contains 'L' && !(s.on.contains 'a' && s.on.contains 'u') &&
    (s.whole || !s.on.contains 't') &&
    !s.off.any (fun c => ['L', 'a', 'u', 't'].contains c || s.on.contains c)

/-- Switches of flags, from what follows the question mark, and the number of signs they take. -/
def readSwitches? (ss : List Sign) : Option (Switches × Nat) :=
  let on := leading isFlag ss
  let found : Option (Switches × Nat) :=
    match ss.drop on.length with
    | .plain ')' :: _ => if on.isEmpty then none else some (⟨true, on, []⟩, on.length + 1)
    | .plain ':' :: _ => if on.isEmpty then none else some (⟨false, on, []⟩, on.length + 1)
    | .plain '-' :: rest =>
      let off := leading isFlag rest
      match off, rest.drop off.length with
      | [], _ => none
      | _, .plain ':' :: _ => some (⟨false, on, off⟩, on.length + off.length + 2)
      | _, _ => none
    | _ => none
  found.filter (·.1.areUsable)

/-! ## What has been read -/

/-- Something read, with the part it plays for a repetition after it. -/
inductive Item where
  | free (s : Shape)
  /-- Conditions on a place cannot be repeated. -/
  | anchor (a : Anchor)
  /-- What is repeated cannot be repeated once more. -/
  | repeated (s : Shape)
deriving Repr

/-- The shape of an item. -/
def Item.shape : Item → Shape
  | .free s | .repeated s => s
  | .anchor a => .anchor a

/-- What has been read of one group: the alternatives before the last bar, and the items after it,
latest first. -/
structure Level where
  flags : Flags
  earlier : Option Shape
  items : List Item
deriving Repr

namespace Level

/-- A group of which nothing has been read. -/
def start (flags : Flags) : Level := ⟨flags, none, []⟩

/-- The current alternative. -/
def alternative (l : Level) : Shape :=
  l.items.foldl (fun s item => .seq item.shape s) .empty

/-- All alternatives. -/
def shape (l : Level) : Shape :=
  match l.earlier with
  | none => l.alternative
  | some s => .either s l.alternative

/-- Read another item. -/
def push (l : Level) (item : Item) : Level := { l with items := item :: l.items }

/-- Begin the next alternative. -/
def next (l : Level) : Level := ⟨l.flags, some l.shape, []⟩

end Level

/-- What an open parenthesis is for. -/
inductive Enclosure where
  | group (number : Option Nat)
  | atomic
  /-- The body fits after or before this place, or does not. What was the limit of references before
  is kept. -/
  | look (behind negative : Bool) (limit : Option Nat)
  /-- A choice by whether a group has caught something; after its bar, with the first branch. -/
  | whether (number : Nat) (yes : Option Shape)
deriving Repr

/-- A pattern of which the beginning has been read. -/
structure Assembly where
  /-- The innermost group. -/
  level : Level
  /-- The groups around it, each with what the parenthesis inside it is for. -/
  outer : List (Level × Enclosure)
  /-- The number of catching groups so far. -/
  groups : Nat
  /-- The widths of the groups that are closed. -/
  widths : List (Nat × Width)
  names : List (String × Nat)
  /-- While something before a place is described, the first group that it may not refer to. -/
  limit : Option Nat
  /-- The groups that choices ask for. -/
  wanted : List Nat
  /-- The marks of flags for the whole pattern. -/
  marks : List Char
  /-- Has there been a repetition? -/
  repeats : Bool
  /-- Has something of varying width been looked for before a place? -/
  varies : Bool
deriving Repr

namespace Assembly

/-- A pattern of which nothing has been read. -/
def start : Assembly := ⟨.start .none, [], 0, [], [], none, [], [], false, false⟩

/-- Read another item. -/
def push (a : Assembly) (item : Item) : Assembly := { a with level := a.level.push item }

/-- Open a parenthesis. -/
def enter (a : Assembly) (e : Enclosure) (flags : Flags) : Assembly :=
  { a with level := .start flags, outer := (a.level, e) :: a.outer }

/-- Open a catching group. -/
def enterGroup (a : Assembly) (name : Option String) : Except ReadError Assembly :=
  let number := a.groups + 1
  let names := match name with | none => a.names | some n => (n, number) :: a.names
  if name.any fun n => (a.names.lookup n).isSome then .error .malformed
  else .ok { a.enter (.group (some number)) a.level.flags with groups := number, names }

/-- May the text of a group be referred to here? -/
def mayRefer (a : Assembly) (number : Nat) : Bool :=
  (a.widths.lookup number).isSome && !a.limit.any (· ≤ number)

/-- Refer to a group. -/
def refer (a : Assembly) (number : Nat) : Except ReadError Assembly :=
  if a.mayRefer number then .ok (a.push (.free (.again number a.level.flags.casing)))
  else .error .malformed

/-- Do flags ask both for all letters and for those of ASCII? -/
def conflicts (a : Assembly) : Bool := a.marks.contains 'a' && a.marks.contains 'u'

/-- Close the innermost group. -/
def close (a : Assembly) : Except ReadError Assembly :=
  match a.outer with
  | [] => .error (if a.conflicts then .conflictingFlags else .malformed)
  | (level, enclosure) :: outer =>
    let body := a.level.shape
    let width := body.width a.widths
    let closed (a : Assembly) (s : Shape) : Assembly :=
      { a with level := level.push (.free s), outer }
    .ok <| match enclosure with
      | .group none => closed a body
      | .group (some n) => closed { a with widths := (n, width) :: a.widths } (.group n body)
      | .atomic => closed a (.atomic body)
      | .look false negative _ => closed a (.look none negative body)
      | .look true negative limit =>
        closed { a with limit, varies := a.varies || width.fixed?.isNone }
          (.look (some width.least) negative body)
      | .whether n none => closed a (.whether n body .empty)
      | .whether n (some yes) => closed a (.whether n yes body)

/-- A bar. A choice has at most two branches. -/
def bar (a : Assembly) : Except ReadError Assembly :=
  match a.outer with
  | (_, .whether _ (some _)) :: _ => .error .malformed
  | (level, .whether n none) :: outer =>
    .ok { a with
      level := .start a.level.flags, outer := (level, .whether n (some a.level.shape)) :: outer }
  | _ => .ok { a with level := a.level.next }

/-- Repeat the latest item; `rest` is what follows the bounds. The result comes with the number of
signs that the mark after the bounds takes. -/
def repeated (a : Assembly) (least : Nat) (most : Option Nat) (rest : List Sign) :
    Except ReadError (Assembly × Nat) :=
  match a.level.items with
  | .free s :: items =>
    let (appetite, n) := readAppetite rest
    .ok ({ a with
      level.items := .repeated (.many s least most appetite) :: items, repeats := true }, n)
  | _ => .error .malformed

/-- The greatest number of repetitions, and more. -/
def endless : Nat := 0xFFFFFFFF

/-- An opening brace: a repetition or the brace itself. -/
def brace (a : Assembly) (rest : List Sign) : Except ReadError (Assembly × Nat) :=
  match readBounds? rest with
  | none => .ok (a.push (.free (a.level.flags.char '\x7b'.toNat)), 0)
  | some (least, most, n) =>
    let rest := rest.drop n
    if least ≥ endless || most.any (· ≥ endless) then
      .error (if rest.head? = some .dangling then .malformed else .countTooLarge)
    else if most.any (· < least) then .error .malformed
    else (a.repeated least most rest).map fun (a, m) => (a, n + m)

/-- The group that a choice asks for. -/
def readWanted? (a : Assembly) (name : List Char) : Option (Assembly × Nat) :=
  if Text.isIdentifier name then (a.names.lookup (String.ofList name)).map (a, ·)
  else
    match Text.readInteger? name with
    | some (.ofNat (n + 1)) => some ({ a with wanted := (n + 1) :: a.wanted }, n + 1)
    | _ => none

/-- A choice by whether a group has caught something, from what follows its second parenthesis. -/
def choice (a : Assembly) (rest : List Sign) : Except ReadError (Assembly × Nat) :=
  match readName? ')' rest with
  | none => .error .malformed
  | some name =>
    match a.readWanted? name with
    | none => .error .malformed
    | some (a, n) =>
      if a.limit.isNone || a.mayRefer n then
        .ok (a.enter (.whether n none) a.level.flags, name.length + 1)
      else .error .malformed

/-- Switch flags, for a group that opens or for the whole pattern. -/
def switch (a : Assembly) (s : Switches) : Except ReadError Assembly :=
  let flags := s.off.foldl (Flags.switch false) (s.on.foldl (Flags.switch true) a.level.flags)
  if s.whole then
    if a.outer.isEmpty && a.level.earlier.isNone && a.level.items.isEmpty then
      .ok { a with level.flags := flags, marks := s.on ++ a.marks }
    else .error .malformed
  else .ok (a.enter (.group none) flags)

/-- What follows an opening parenthesis, and the number of signs that says what it is for. -/
def parenthesis (a : Assembly) (rest : List Sign) : Except ReadError (Assembly × Nat) :=
  let flags := a.level.flags
  match rest with
  | .plain '?' :: .plain 'P' :: .plain '<' :: rest =>
    match readName? '>' rest with
    | some name =>
      if Text.isIdentifier name then
        (a.enterGroup (some (String.ofList name))).map (·, name.length + 4)
      else .error .malformed
    | none => .error .malformed
  | .plain '?' :: .plain 'P' :: .plain '=' :: rest =>
    match readName? ')' rest with
    | some name =>
      match a.names.lookup (String.ofList name) with
      | some number => (a.refer number).map (·, name.length + 4)
      | none => .error .malformed
    | none => .error .malformed
  | .plain '?' :: .plain '#' :: rest =>
    match readUntil? ')' rest with
    | some comment => .ok (a, comment.length + 3)
    | none => .error .malformed
  | .plain '?' :: .plain '(' :: rest => (a.choice rest).map fun (a, n) => (a, n + 2)
  | .plain '?' :: .plain ':' :: _ => .ok (a.enter (.group none) flags, 2)
  | .plain '?' :: .plain '>' :: _ => .ok (a.enter .atomic flags, 2)
  | .plain '?' :: .plain '=' :: _ => .ok (a.enter (.look false false none) flags, 2)
  | .plain '?' :: .plain '!' :: _ => .ok (a.enter (.look false true none) flags, 2)
  | .plain '?' :: .plain '<' :: .plain c :: _ =>
    if c = '=' || c = '!' then
      let a := { a.enter (.look true (c = '!') a.limit) flags with
        limit := a.limit.or (some (a.groups + 1)) }
      .ok (a, 3)
    else .error .malformed
  | .plain '?' :: rest =>
    match readSwitches? rest with
    | some (s, n) => (a.switch s).map (·, n + 1)
    | none => .error .malformed
  | _ => (a.enterGroup none).map (·, 0)

/-- An escaped digit: the code of a character in octal digits, or the number of a group. -/
def number (a : Assembly) (c : Char) (rest : List Sign) : Except ReadError (Assembly × Nat) :=
  let octal (digits : List Char) : Except ReadError (Assembly × Nat) :=
    let code := octalValue digits
    if code ≤ 0xFF then .ok (a.push (.free (a.level.flags.char code)), digits.length - 1)
    else .error .malformed
  if c = '0' then octal (c :: (leading isOctal rest).take 2)
  else
    match leading Char.isDigit rest with
    | [] => (a.refer (Text.digitsValue [c])).map (·, 0)
    | d :: more =>
      if isOctal c && isOctal d && more.head?.any isOctal then octal (c :: d :: more.take 1)
      else (a.refer (Text.digitsValue [c, d])).map (·, 1)

/-- An escaped character. -/
def escape (a : Assembly) (c : Char) (rest : List Sign) : Except ReadError (Assembly × Nat) :=
  let flags := a.level.flags
  match anchor? flags.ascii c, category? flags.ascii c with
  | some x, _ => .ok (a.push (.anchor x), 0)
  | none, some m => .ok (a.push (.free (flags.one false [m])), 0)
  | none, none =>
    if c.isDigit then a.number c rest
    else
      match readEscape? c rest with
      | some (code, n) => .ok (a.push (.free (flags.char code)), n)
      | none => .error .malformed

/-- Read one sign, and perhaps some of those after it, the number of which is given back. -/
def feed (a : Assembly) (s : Sign) (rest : List Sign) : Except ReadError (Assembly × Nat) :=
  let flags := a.level.flags
  match s with
  | .dangling => .error .malformed
  | .escaped c => a.escape c rest
  | .plain c =>
    if flags.spaced && [' ', '\t', '\n', '\r', '\x0b', '\x0c'].contains c then .ok (a, 0)
    else if flags.spaced && c = '#' then
      .ok (a, (rest.takeWhile fun s => s ≠ .plain '\n' && s ≠ .dangling).length)
    else
      match c with
      | '.' => .ok (a.push (.free flags.point), 0)
      | '^' => .ok (a.push (.anchor flags.caret), 0)
      | '$' => .ok (a.push (.anchor flags.dollar), 0)
      | '|' => a.bar.map (·, 0)
      | '(' => a.parenthesis rest
      | ')' => a.close.map (·, 0)
      | '*' => a.repeated 0 none rest
      | '+' => a.repeated 1 none rest
      | '?' => a.repeated 0 (some 1) rest
      | '\x7b' => a.brace rest
      | '[' =>
        match readClass? flags.ascii rest with
        | some (complement, members, n) => .ok (a.push (.free (flags.one complement members)), n)
        | none => .error .malformed
      | c => .ok (a.push (.free (flags.char c.toNat)), 0)

/-- Read signs, but not the first `skip` ones. -/
def read : (skip : Nat) → Assembly → List Sign → Except ReadError Assembly
  | _, a, [] => .ok a
  | skip + 1, a, _ :: rest => read skip a rest
  | 0, a, s :: rest =>
    match a.feed s rest with
    | .ok (a, n) => read n a rest
    | .error e => .error e

end Assembly

/-- The pattern that a text describes. -/
def read (source : String) : Except ReadError Pattern := do
  let a ← Assembly.read 0 .start (signs source.toList)
  if !a.outer.isEmpty then .error .malformed
  else if a.conflicts then .error .conflictingFlags
  else if a.wanted.any (a.groups < ·) || a.varies || (a.repeats && a.marks.contains 't') then
    .error .malformed
  else .ok ⟨source, a.level.shape, a.groups, a.names⟩

end WebhookRelay.Pattern
