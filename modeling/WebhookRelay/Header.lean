import WebhookRelay.Dictionary
import WebhookRelay.Text.Digit
import WebhookRelay.Text.LowerCase

/-!
# Headers

- `Headers.first?`: the first value of a header.
- `Headers.selectForwarded`: the headers of a delivery that are sent on.
- `Headers.passThrough`: the headers of the target's response that are sent back.
- `Headers.location`: the header that names another address.
-/

namespace WebhookRelay

/-- Headers in the order in which they came; names may be repeated. -/
abbrev Headers := List (String × String)

namespace Headers

/-- The first value of a header, whatever the letter case of its name. -/
def first? (hs : Headers) (name : String) : Option String :=
  (hs.find? fun h => Text.lower h.1 == Text.lower name).map Prod.snd

/-- The first value of a header stays when a header of another name is added. -/
theorem first?_append_of_ne (hs : Headers) {name other : String} (value : String)
    (h : Text.lower other ≠ Text.lower name) :
    Headers.first? (hs ++ [(other, value)]) name = hs.first? name := by
  unfold first?
  rw [List.find?_append, List.find?_cons_of_neg (by simpa using h), List.find?_nil, Option.or_none]

/-- Are all names and values ASCII? -/
def isAscii (hs : Headers) : Bool :=
  hs.all fun h => h.1.toList.all (·.toNat < 0x80) && h.2.toList.all (·.toNat < 0x80)

/-- Are all names and values in the first 256 characters? -/
def isLatin (hs : Headers) : Bool :=
  hs.all fun h => h.1.toList.all (·.toNat < 0x100) && h.2.toList.all (·.toNat < 0x100)

/-! ## Towards the target -/

/-- Headers that are never sent on, whatever is allowed. -/
def blocked : List String := ["authorization", "connection", "content-length", "content-type",
  "cookie", "host", "transfer-encoding", "x-hub-signature", "x-hub-signature-256"]

/-- Is a header sent on? -/
def isForwarded (allowed : List String) (name : String) : Bool :=
  let name := Text.lower name
  !blocked.contains name && (allowed.map Text.lower).contains name

/-- The headers that are sent on: those that are allowed and not blocked, and the content type. A
repeated name has its last value. -/
def selectForwarded (inbound : Headers) (allowed : List String) : Headers :=
  (Dictionary.ofPairs (inbound.filter fun h => isForwarded allowed h.1)).put
    "Content-Type" "application/json"

/-- The headers that are sent on have come in and are sent on, or are the content type. -/
theorem mem_selectForwarded {hs : Headers} {allowed : List String} {h : String × String}
    (hmem : h ∈ hs.selectForwarded allowed) :
    h = ("Content-Type", "application/json") ∨ h ∈ hs ∧ isForwarded allowed h.1 = true := by
  refine (Dictionary.mem_put hmem).imp_right fun hmem => ?_
  exact List.mem_filter.mp (Dictionary.mem_ofPairs hmem)

/-- What is sent on is ASCII if what comes in for it is. -/
theorem isAscii_selectForwarded {hs : Headers} {allowed : List String}
    (hascii : ∀ h ∈ hs, isForwarded allowed h.1 = true → isAscii [h] = true) :
    (hs.selectForwarded allowed).isAscii = true := by
  refine List.all_eq_true.mpr fun h hmem => ?_
  obtain rfl | ⟨hmem, hforwarded⟩ := mem_selectForwarded hmem
  · decide
  · exact List.all_eq_true.mp (hascii h hmem hforwarded) h List.mem_cons_self

/-! ## Towards the caller -/

/-- Headers that describe how the target framed its response. -/
def hopByHop : List String := ["connection", "content-encoding", "content-length", "keep-alive",
  "transfer-encoding"]

/-- Add a value to a header: after a comma if it has one. -/
def join (hs : Headers) (h : String × String) : Headers :=
  let name := Text.lower h.1
  Dictionary.put hs name (match hs.lookup name with
    | some v => v ++ ", " ++ h.2
    | none => h.2)

/-- Names in lower case, each once, with their values joined at the place of the first. -/
def joined (hs : Headers) : Headers :=
  hs.foldl join []

/-- May a character stand in an address? -/
def isAddressChar (c : Char) : Bool :=
  c.isAlphanum || "_.-~:/%#?=@[]!$&'()*+,;".toList.contains c

/-- The header that names another address. Each byte of other characters is written as a percent
sign and two digits. -/
def location (address : String) : String × String :=
  ("location", String.ofList <| address.toList.flatMap fun c =>
    if isAddressChar c then [c]
    else (String.singleton c).toUTF8.toList.flatMap fun b =>
      '%' :: (Text.hexDigits 2 b.toNat).map Char.toUpper)

/-- The headers of a response that are sent back. -/
def passThrough (hs : Headers) : Headers :=
  (joined hs).filter fun h => !hopByHop.contains h.1

end Headers

end WebhookRelay
