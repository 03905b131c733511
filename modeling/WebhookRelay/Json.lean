import WebhookRelay.Binary64
import WebhookRelay.Dictionary
import WebhookRelay.Text.Integer

/-!
# JSON values

Integers are kept apart from floating-point numbers and have any size; objects keep the order of
their keys.

- `Json`: the values.
- `Json.Kind`: what sort of value it is.
- `Json.isFalsy`: the values that count as nothing: null, false, zeros and empty containers.
- `Json.hasOverlong`: the values that cannot be written, for the digits of an integer in them.
-/

namespace WebhookRelay

/-- A JSON value. -/
inductive Json where
  | null
  | bool (b : Bool)
  | int (n : Int)
  | float (x : Binary64)
  | string (s : String)
  | array (items : List Json)
  | object (fields : List (String × Json))
deriving Inhabited, Repr

namespace Json

/-- The sorts of values. -/
inductive Kind where
  | null
  | bool
  | int
  | float
  | string
  | array
  | object
deriving DecidableEq, Repr

/-- The sort of a value. -/
def kind : Json → Kind
  | .null => .null
  | .bool _ => .bool
  | .int _ => .int
  | .float _ => .float
  | .string _ => .string
  | .array _ => .array
  | .object _ => .object

/-- Null, false, zero, and the empty text, array and object count as nothing. -/
def isFalsy : Json → Bool
  | .null => true
  | .bool b => !b
  | .int n => n = 0
  | .float x => x.isZero
  | .string s => s.isEmpty
  | .array items => items.isEmpty
  | .object fields => fields.isEmpty

/-- The number of characters, items or members of a value that has a length. -/
def length? : Json → Option Nat
  | .string s => some s.toList.length
  | .array items => some items.length
  | .object fields => some fields.length
  | _ => none

/-- The member of an object with a key. -/
def field? (v : Json) (key : String) : Option Json :=
  match v with
  | .object fields => fields.lookup key
  | _ => none

mutual

/-- Is there an integer in a value that has too many digits to be written? -/
def hasOverlong : Json → Bool
  | .int n => Text.isOverlong n
  | .array items => hasOverlongItem items
  | .object fields => hasOverlongMember fields
  | .null | .bool _ | .float _ | .string _ => false

/-- Is there one in the items of an array? -/
def hasOverlongItem : List Json → Bool
  | [] => false
  | v :: vs => v.hasOverlong || hasOverlongItem vs

/-- Is there one in the members of an object? -/
def hasOverlongMember : List (String × Json) → Bool
  | [] => false
  | (_, v) :: fs => v.hasOverlong || hasOverlongMember fs

end

end Json

end WebhookRelay
