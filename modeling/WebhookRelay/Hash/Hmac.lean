import WebhookRelay.Hash.Sha256
import WebhookRelay.Text.Digit

/-!
# Keyed hashing

The HMAC construction of RFC 2104 over SHA-256.

- `keyBlock`: the key as one block.
- `hmac`: the authentication code of a message under a key.
- `hexText`: bytes as lower-case hexadecimal digits, which tell them apart (`eq_of_hexText_eq`).
-/

namespace WebhookRelay.Hash

/-- The key as one block: a key longer than a block is replaced by its digest, and zeros fill up. -/
def keyBlock (key : List UInt8) : List UInt8 :=
  let key := if key.length > 64 then sha256 key else key
  key ++ List.replicate (64 - key.length) 0

/-- The authentication code of a message under a key. -/
def hmac (key message : List UInt8) : List UInt8 :=
  let block := keyBlock key
  sha256 (block.map (· ^^^ 0x5c) ++ sha256 (block.map (· ^^^ 0x36) ++ message))

/-- Bytes as lower-case hexadecimal digits, two for each. -/
def hexText (bytes : List UInt8) : List Char :=
  bytes.flatMap fun b => Text.hexDigits 2 b.toNat

/-- Each byte is written with two digits. -/
@[simp] theorem length_hexText (bytes : List UInt8) :
    (hexText bytes).length = 2 * bytes.length := by
  induction bytes with
  | nil => rfl
  | cons b bytes ih =>
    have hcons : hexText (b :: bytes) = Text.hexDigits 2 b.toNat ++ hexText bytes := rfl
    rw [hcons, List.length_append, Text.length_hexDigits, ih, List.length_cons]
    omega

/-- No digit is outside ASCII. -/
theorem all_isAscii_hexText (bytes : List UInt8) :
    (hexText bytes).all (·.toNat < 0x80) = true := by
  refine List.all_eq_true.mpr fun c hc => decide_eq_true ?_
  obtain ⟨b, -, hc⟩ := List.mem_flatMap.mp hc
  obtain ⟨d, hd, rfl⟩ := Text.exists_hexDigit_of_mem hc
  have hall : ∀ d < 16, (Text.hexDigit d).toNat < 0x80 := by decide
  exact hall d hd

/-- Bytes are told apart by their digits. -/
theorem eq_of_hexText_eq {bs bs' : List UInt8} (h : hexText bs = hexText bs') : bs = bs' := by
  have hlength := congrArg List.length h
  induction bs generalizing bs' with
  | nil =>
    cases bs' with
    | nil => rfl
    | cons b' bs' => simp at hlength
  | cons b bs ih =>
    cases bs' with
    | nil => simp at hlength
    | cons b' bs' =>
      obtain ⟨hb, hbs⟩ := List.append_inj h (by simp)
      have hb : b.toNat = b'.toNat := @Text.eq_of_hexDigits_eq 2 _ _ b.toNat_lt b'.toNat_lt hb
      rw [UInt8.toNat_inj.mp hb, ih hbs (congrArg List.length hbs)]

end WebhookRelay.Hash
