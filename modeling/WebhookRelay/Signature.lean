import WebhookRelay.Fault
import WebhookRelay.Hash.Hmac
import WebhookRelay.Text.Blank
import WebhookRelay.Text.LowerCase

/-!
# Signatures

A body is signed with its keyed hash under a shared secret.

- `Signature.Plain`: the texts that can be compared without telling where they differ.
- `Signature.sign`: the signature of a body.
- `Signature.verify`: does a header hold the signature of a body?
-/

namespace WebhookRelay.Signature

/-- What every signature begins with. -/
def marker : String := "sha256="

/-- Text without characters outside ASCII. Only such text can be compared in constant time. -/
structure Plain where
  text : String
  isAscii : text.toList.all (·.toNat < 0x80) = true
deriving DecidableEq

/-- The text, if it can be compared. -/
def Plain.of? (s : String) : Option Plain :=
  if h : s.toList.all (·.toNat < 0x80) = true then some ⟨s, h⟩ else none

/-- Bytes in hexadecimal can be compared. -/
def Plain.ofBytes (bytes : List UInt8) : Plain where
  text := String.ofList (Hash.hexText bytes)
  isAscii := by
    rw [String.toList_ofList]
    exact Hash.all_isAscii_hexText bytes

/-- A text that cannot be compared is not the same as one that can. -/
theorem Plain.any_of?_iff {s : String} {p : Plain} :
    (Plain.of? s).any (p == ·) = true ↔ s = p.text := by
  unfold of?
  split
  case isTrue h =>
    rw [Option.any_some, beq_iff_eq, Plain.mk.injEq]
    exact eq_comm
  case isFalse h =>
    refine ⟨nofun, ?_⟩
    rintro rfl
    exact absurd p.isAscii h

/-- The keyed hash of a body in hexadecimal. An empty secret is refused. -/
def digest (secret : String) (body : ByteArray) : Except ConfigFault Plain :=
  if secret.isEmpty then .error .secretMissing
  else .ok (.ofBytes (Hash.hmac secret.toUTF8.toList body.toList))

/-- The signature of a body. -/
def sign (secret : String) (body : ByteArray) : Except ConfigFault String :=
  (digest secret body).map (marker ++ ·.text)

/-- Is a text the marker followed by a given digest, in any letter case, with blanks around it? -/
def carries (header : String) (digest : Plain) : Bool :=
  marker.toList.isPrefixOf header.toList &&
    (Plain.of? (Text.lower (Text.trim (String.ofList (header.toList.drop marker.length))))).any
      (digest == ·)

/-- Does a header hold the signature of a body? Without a header the answer is no. -/
def verify (secret : String) (header : Option String) (body : ByteArray) :
    Except ConfigFault Bool := do
  let expected ← digest secret body
  return header.any (carries · expected)

/-- Without a secret there is a fault. -/
theorem verify_of_empty (header : Option String) (body : ByteArray) :
    verify "" header body = .error .secretMissing := rfl

/-- With a secret there is an answer. -/
theorem verify_of_ne_empty {secret : String} (h : secret ≠ "") (header : Option String)
    (body : ByteArray) : ∃ b, verify secret header body = .ok b := by
  have hempty : secret.isEmpty = false := by simpa using h
  unfold verify digest
  rw [hempty]
  exact ⟨_, rfl⟩

/-- No signature is never the right one. -/
theorem verify_none_ne (secret : String) (body : ByteArray) :
    verify secret none body ≠ .ok true := by
  unfold verify
  cases digest secret body with
  | error e => exact nofun
  | ok expected => exact fun h => Bool.false_ne_true (Except.ok.inj h)

/-- An answer is given only if there is a secret. -/
theorem ne_empty_of_verify_eq_ok {secret : String} {header : Option String} {body : ByteArray}
    {b : Bool} (h : verify secret header body = .ok b) : secret ≠ "" := by
  rintro rfl
  cases h

end WebhookRelay.Signature
