/-!
# Upper case within ASCII

Names that are written in capital ASCII letters can be given in any letter case. Besides the small
ASCII letters, ten characters have an upper case that is in ASCII.

- `upperChar`: the upper case of one character, where it is in ASCII.
- `upper`: the same for a text. A text with other characters is no such name in any letter case.
-/

namespace WebhookRelay.Text

/-- The upper case of one character where it is in ASCII; any other character is left as it is. -/
def upperChar : Char → List Char
  | 'ß' => ['S', 'S']
  | 'ı' => ['I']
  | 'ſ' => ['S']
  | 'ﬀ' => ['F', 'F']
  | 'ﬁ' => ['F', 'I']
  | 'ﬂ' => ['F', 'L']
  | 'ﬃ' => ['F', 'F', 'I']
  | 'ﬄ' => ['F', 'F', 'L']
  | 'ﬅ' => ['S', 'T']
  | 'ﬆ' => ['S', 'T']
  | c => [c.toUpper]

/-- The upper case of a text as far as it is in ASCII. -/
def upper (s : String) : String :=
  String.ofList (s.toList.flatMap upperChar)

end WebhookRelay.Text
