import WebhookRelay.Binary64.Text
import WebhookRelay.Json
import WebhookRelay.Text.Quoted

/-!
# Showing values in messages

The display form of a value names the constants `None`, `True` and `False`, quotes texts, and puts
a space after each comma and colon. A text on its own is shown as it is.

- `Json.displayInner`: a value inside another.
- `Json.display`: a value on its own.
-/

namespace WebhookRelay.Json

mutual

/-- The display form of a value inside another one. -/
def displayInner : Json → String
  | .null => "None"
  | .bool true => "True"
  | .bool false => "False"
  | .int n => String.ofList (Text.showInteger n)
  | .float x => x.toText
  | .string s => Text.quoted s
  | .array items => "[" ++ displayItems items ++ "]"
  | .object fields => "\x7b" ++ displayFields fields ++ "\x7d"

/-- The items of an array, separated by commas. -/
def displayItems : List Json → String
  | [] => ""
  | [v] => displayInner v
  | v :: w :: vs => displayInner v ++ ", " ++ displayItems (w :: vs)

/-- The members of an object, separated by commas. -/
def displayFields : List (String × Json) → String
  | [] => ""
  | [(k, v)] => Text.quoted k ++ ": " ++ displayInner v
  | (k, v) :: f :: fs =>
    Text.quoted k ++ ": " ++ displayInner v ++ ", " ++ displayFields (f :: fs)

end

/-- The display form of a value on its own. -/
def display : Json → String
  | .string s => s
  | v => displayInner v

end WebhookRelay.Json
