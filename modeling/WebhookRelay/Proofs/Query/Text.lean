import Mathlib.Tactic.SplitIfs
import WebhookRelay.Proofs.Json.Reading
import WebhookRelay.Proofs.Json.RoundTrip
import WebhookRelay.Query

/-!
# Selected containers as text

An array or object that a query selects is turned into JSON on a single line. For a value that has
been read and holds no floating-point number nothing is lost: reading the text gives the value back,
with the members of all its objects in their order.

- `Json.floatFree`: the values without floating-point numbers.
- `Json.WellFormed.exact`: such values are read back from their text if they are well-formed.
- `Json.Exact.visible`: they are written without control characters.
- `Query.Transcribes`: a text says all about a value.
-/

namespace WebhookRelay

namespace Json

/-! ## Values without floating-point numbers -/

mutual

/-- Is there no floating-point number in a value? -/
def floatFree : Json → Bool
  | .null | .bool _ | .int _ | .string _ => true
  | .float _ => false
  | .array items => floatFreeItems items
  | .object fields => floatFreeFields fields

/-- Is there none in the items of an array? -/
def floatFreeItems : List Json → Bool
  | [] => true
  | v :: vs => v.floatFree && floatFreeItems vs

/-- Is there none in the members of an object? -/
def floatFreeFields : List (String × Json) → Bool
  | [] => true
  | (_, v) :: fs => v.floatFree && floatFreeFields fs

end

theorem floatFree_of_mem_items {items : List Json} (h : floatFreeItems items = true) :
    ∀ v ∈ items, v.floatFree = true := by
  induction items with
  | nil => nofun
  | cons v vs ih =>
    rw [floatFreeItems, Bool.and_eq_true] at h
    exact List.forall_mem_cons.mpr ⟨h.1, ih h.2⟩

theorem floatFree_of_mem_fields {fields : List (String × Json)}
    (h : floatFreeFields fields = true) : ∀ f ∈ fields, f.2.floatFree = true := by
  induction fields with
  | nil => nofun
  | cons f fs ih =>
    rw [floatFreeFields, Bool.and_eq_true] at h
    exact List.forall_mem_cons.mpr ⟨h.1, ih h.2⟩

/-- A well-formed value without floating-point numbers is read back. -/
theorem WellFormed.exact {v : Json} (h : v.WellFormed) (hfloat : v.floatFree = true) :
    Exact v := by
  induction h with
  | null => exact .null
  | bool b => exact .bool b
  | int hshort => exact .int hshort
  | float x => cases hfloat
  | string s => exact .string s
  | array h ih =>
    have hitems := floatFree_of_mem_items hfloat
    exact .array fun v hv => ih v hv (hitems v hv)
  | object hkeys h ih =>
    have hfields := floatFree_of_mem_fields hfloat
    exact .object hkeys fun f hf => ih f hf (hfields f hf)

/-! ## Control characters -/

/-- There is no control character among these. -/
def Visible (cs : List Char) : Prop :=
  ∀ c ∈ cs, 0x20 ≤ c.toNat

variable {sep : Separators}

@[simp] theorem visible_nil : Visible [] := nofun

@[simp] theorem visible_cons {c : Char} {cs : List Char} :
    Visible (c :: cs) ↔ 0x20 ≤ c.toNat ∧ Visible cs :=
  List.forall_mem_cons

@[simp] theorem visible_append {cs ds : List Char} :
    Visible (cs ++ ds) ↔ Visible cs ∧ Visible ds :=
  List.forall_mem_append

/-- A control character is written as an escape. -/
theorem visible_escapeChar (c : Char) : Visible (escapeChar c) := by
  unfold escapeChar
  have hdigits : ∀ n, Visible (Text.hexDigits 4 n) := by
    intro n d hd
    obtain ⟨k, hk, rfl⟩ := Text.exists_hexDigit_of_mem hd
    have hall : ∀ k < 16, 0x20 ≤ (Text.hexDigit k).toNat := by decide
    exact hall k hk
  split_ifs with hquote hslash hline hreturn htab hfeed hback hcontrol
  · simp
  · simp
  · simp
  · simp
  · simp
  · simp
  · simp
  · simp [hdigits]
  · simp at hcontrol
    simp [hcontrol]

theorem visible_writeString (s : String) : Visible (writeString s) := by
  have hescaped : Visible (s.toList.flatMap escapeChar) := by
    intro c hc
    obtain ⟨d, -, hd⟩ := List.mem_flatMap.mp hc
    exact visible_escapeChar d c hd
  simp [writeString, hescaped]

theorem visible_showInteger (n : Int) : Visible (Text.showInteger n) := by
  have hnatural : ∀ n, Visible (Text.showNatural n) := by
    intro n c hc
    have hdigit := isDigit_of_mem_showNatural hc
    simp only [Char.isDigit, Bool.and_eq_true, decide_eq_true_eq] at hdigit
    have := UInt32.le_iff_toNat_le.mp hdigit.1
    simp at this
    omega
  cases n with
  | ofNat n => exact hnatural n
  | negSucc n => exact visible_cons.mpr ⟨by decide, hnatural (n + 1)⟩

/-- The items of an array are visible if each of them is, and what stands between them. -/
theorem visible_writeItems (hsep : Visible sep.item) {items : List Json}
    (h : ∀ v ∈ items, Visible (writeChars sep v)) : Visible (writeItems sep items) := by
  induction items with
  | nil => exact visible_nil
  | cons v rest ih =>
    obtain ⟨hv, hrest⟩ := List.forall_mem_cons.mp h
    cases rest with
    | nil => exact hv
    | cons w rest =>
      rw [writeItems, visible_append, visible_append]
      exact ⟨⟨hv, hsep⟩, ih hrest⟩

/-- The members of an object are visible if their values are, and what stands between them. -/
theorem visible_writeFields (hitem : Visible sep.item) (hkey : Visible sep.key)
    {fields : List (String × Json)} (h : ∀ f ∈ fields, Visible (writeChars sep f.2)) :
    Visible (writeFields sep fields) := by
  induction fields with
  | nil => exact visible_nil
  | cons f rest ih =>
    obtain ⟨k, v⟩ := f
    obtain ⟨hv, hrest⟩ := List.forall_mem_cons.mp h
    have hfirst : Visible (writeString k ++ sep.key ++ writeChars sep v) := by
      rw [visible_append, visible_append]
      exact ⟨⟨visible_writeString k, hkey⟩, hv⟩
    cases rest with
    | nil => exact hfirst
    | cons g rest =>
      rw [writeFields, visible_append, visible_append]
      exact ⟨⟨hfirst, hitem⟩, ih hrest⟩

/-- A value that is read back is written without control characters. -/
theorem Exact.visible (hitem : Visible sep.item) (hkey : Visible sep.key) {v : Json}
    (h : Exact v) : Visible (writeChars sep v) := by
  induction h with
  | null => simp [writeChars]
  | bool b => cases b <;> simp [writeChars]
  | int _ => exact visible_showInteger _
  | string s => exact visible_writeString s
  | array h ih => simp [writeChars, visible_writeItems hitem ih]
  | object hkeys h ih => simp [writeChars, visible_writeFields hitem hkey ih]

/-- An exact value is read back from its text without spaces. -/
theorem read_compact {v : Json} (h : Exact v) : read (compact v) = .ok v :=
  read_writeChars ⟨⟨[], rfl, nofun⟩, ⟨[], rfl, nofun⟩⟩ h

end Json

namespace Query

/-- The arrays and objects that can be read and hold no floating-point number. -/
structure ReadableContainer (v : Json) : Prop where
  read : ∃ text, Json.read text = .ok v
  container : v.kind = .array ∨ v.kind = .object
  floatFree : v.floatFree = true

/-- Such a value is read back from a text. -/
theorem ReadableContainer.exact {v : Json} (h : ReadableContainer v) : Json.Exact v := by
  obtain ⟨text, hread⟩ := h.read
  exact (Json.wellFormed_of_read hread).exact h.floatFree

/-- A container is turned into JSON without spaces. -/
theorem toText_of_container {v : Json} (h : v.kind = .array ∨ v.kind = .object) :
    toText v = v.compact := by
  cases v with
  | array _ | object _ => rfl
  | null | bool _ | int _ | float _ | string _ => simp [Json.kind] at h

/-- Such a value is read back from its own text. -/
theorem ReadableContainer.read_toText {v : Json} (h : ReadableContainer v) :
    Json.read (toText v) = .ok v := by
  rw [toText_of_container h.container]
  exact Json.read_compact h.exact

/-- A text says all about a container, on a single line. -/
structure Transcribes (v : Json) (text : String) : Prop where
  /-- The container can be written: no integer in it has too many digits. -/
  written : v.hasOverlong = false
  /-- The value is read back, with the members of its objects in their order. -/
  readBack : Json.read text = .ok v
  /-- No other container has this text. -/
  tellsApart : ∀ w, ReadableContainer w → toText w = text → w = v
  /-- There is no line end in it, nor any other control character. -/
  oneLine : ∀ c ∈ text.toList, 0x20 ≤ c.toNat

/-- **The text of a selected array or object is faithful**: however deep it is, whatever texts and
keys it holds and however large its integers are that can be read. -/
theorem toText_transcribes (v : Json) (h : ReadableContainer v) : Transcribes v (toText v) where
  written := by
    obtain ⟨text, hread⟩ := h.read
    exact (Json.wellFormed_of_read hread).hasOverlong_eq_false
  readBack := h.read_toText
  tellsApart w hw htext := by
    have hread := hw.read_toText
    rw [htext, h.read_toText] at hread
    exact (Except.ok.inj hread).symm
  oneLine := by
    rw [toText_of_container h.container, Json.compact, String.toList_ofList]
    exact h.exact.visible (by simp) (by simp)

/-- An object whose keys are in no order, with a line end, a quote and a letter that is not ASCII
inside: it is read back from a text on one line. -/
theorem toText_transcribes_of_lineEnd :
    ∃ v, ReadableContainer v ∧
      v = .object [("b", .array [.object [], .string "\n\"\u00e9", .int (-12)]), ("a", .null)] ∧
      toText v = "\x7b\"b\":[\x7b\x7d,\"\\n\\\"\u00e9\",-12],\"a\":null\x7d" ∧
      Transcribes v (toText v) := by
  let v : Json :=
    .object [("b", .array [.object [], .string "\n\"\u00e9", .int (-12)]), ("a", .null)]
  have hexact : Json.Exact v := by
    refine .object (by decide) (List.forall_mem_cons.mpr ⟨.array ?_, by simp [Json.Exact.null]⟩)
    simpa using ⟨.object .nil nofun, .string _, .int (by decide +kernel)⟩
  have hv : ReadableContainer v := ⟨⟨_, Json.read_compact hexact⟩, .inr rfl, rfl⟩
  exact ⟨v, hv, rfl, by decide +kernel, toText_transcribes v hv⟩

end Query

end WebhookRelay
