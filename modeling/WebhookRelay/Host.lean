import WebhookRelay.Text.Digit
import WebhookRelay.Text.Split

/-!
# Hosts

The host of an address may stand in brackets, but then it has to be an IPv6 address or one of a
version to come. An address whose host is something else in brackets cannot be read.

- `Host.isIPv4`: four numbers with points between them.
- `Host.isIPv6`: eight groups of hexadecimal digits with colons between them. A gap stands for groups
  of zeros, an IPv4 address for the last two groups, and the name of a scope may follow.
- `Host.isFuture`: an address of a version to come.
- `Host.isReadable`: can this be read as the host of an address?
-/

namespace WebhookRelay.Host

/-- Is the character an ASCII hexadecimal digit? -/
def isHex (c : Char) : Bool :=
  (Text.hexValue? c).isSome

/-! ## IPv4 -/

/-- Is this a number below 256, without zeros before it? -/
def isOctet (cs : List Char) : Bool :=
  !cs.isEmpty && cs.all Char.isDigit && cs.length ≤ 3 && (cs = ['0'] || cs.head? != some '0') &&
    Text.digitsValue cs < 256

/-- Is this an IPv4 address? -/
def isIPv4 (cs : List Char) : Bool :=
  let octets := Text.splitChars ['.'] none cs
  octets.length = 4 && octets.all isOctet

/-! ## IPv6 -/

/-- Are these one to four hexadecimal digits? -/
def isGroup (cs : List Char) : Bool :=
  !cs.isEmpty && cs.length ≤ 4 && cs.all isHex

/-- The groups of an address, which has two colons at least. An IPv4 address at the end stands for
two groups. -/
def groups? (cs : List Char) : Option (List (List Char)) :=
  let groups := Text.splitChars [':'] none cs
  let last := groups.getLast?.getD []
  if groups.length < 3 then none
  else if !last.contains '.' then some groups
  else if isIPv4 last then some (groups.dropLast ++ [['0'], ['0']])
  else none

/-- The number of groups on one side of a gap. There are none if the address begins or ends there. -/
def sideLength? (groups : List (List Char)) : Option Nat :=
  if groups = [[]] then some 0
  else if !groups.isEmpty && groups.all isGroup then some groups.length
  else none

/-- Is there a gap at this place, with less than eight groups before and after it? -/
def hasGapAt (groups : List (List Char)) (i : Nat) : Bool :=
  groups[i]? = some [] &&
    match sideLength? (groups.take i), sideLength? (groups.drop (i + 1)) with
    | some before, some after => before + after < 8
    | _, _ => false

/-- Are these eight groups, or less than that and a gap? -/
def isComplete (groups : List (List Char)) : Bool :=
  (groups.length = 8 && groups.all isGroup) || (List.range groups.length).any (hasGapAt groups)

/-- Is this nothing, or a percent sign and the name of a scope? -/
def isScope : List Char → Bool
  | [] => true
  | _ :: name => !name.isEmpty && !name.contains '%'

/-- Is this an IPv6 address? -/
def isIPv6 (cs : List Char) : Bool :=
  isScope (cs.dropWhile (· != '%')) && (groups? (cs.takeWhile (· != '%'))).any isComplete

/-! ## Brackets -/

/-- Is this an address of a version to come: a letter, the version, a point and anything? -/
def isFuture : List Char → Bool
  | 'v' :: cs =>
    match cs.takeWhile isHex, cs.dropWhile isHex with
    | _ :: _, '.' :: _ :: _ => true
    | _, _ => false
  | _ => false

/-- What stands behind the first opening bracket, up to the next closing one. -/
def inBrackets (cs : List Char) : List Char :=
  ((cs.dropWhile (· != '[')).drop 1).takeWhile (· != ']')

/-- Can this be read as the host of an address? Brackets come together, and what they hold is an
address. -/
def isReadable (cs : List Char) : Bool :=
  match cs.contains '[', cs.contains ']' with
  | false, false => true
  | true, true =>
    let address := inBrackets cs
    if address.head? = some 'v' then isFuture address else isIPv6 address
  | _, _ => false

/-- A name in brackets is no address, and an IPv4 address is none that may stand there. -/
example : isReadable "[::1%lo]:80".toList = true ∧ isReadable "[relay]".toList = false ∧
    isReadable "[127.0.0.1]".toList = false := by
  decide +kernel

end WebhookRelay.Host
