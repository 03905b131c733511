import Mathlib.Data.List.Forall2
import WebhookRelay.Proofs.Text.LowerCase
import WebhookRelay.Signature

/-!
# Accepted headers

A header is accepted for a body exactly if it is the marker followed by the digest of the body, in
any letter case and with blanks around it.

- `CaseVariant`: a text in other letter cases.
- `Signed`: what a header with a given digest looks like.
- `flatMap_lowerChar_eq_iff`: among all characters, only a digit and its capital have that digit for
  their lower case.
- `carries_iff`: the check of a header says whether it looks like that.
-/

namespace WebhookRelay.Signature

/-- The same text with some letters put into upper case. -/
def CaseVariant (cs digest : List Char) : Prop :=
  List.Forall₂ (fun c d => c = d ∨ c = d.toUpper) cs digest

/-- The marker, the digest in any letter case, and blanks before and after it. -/
def Signed (header digest : String) : Prop :=
  ∃ before variant after, header.toList = marker.toList ++ (before ++ variant ++ after) ∧
    (∀ c ∈ before, Text.isBlank c = true) ∧ CaseVariant variant digest.toList ∧
    ∀ c ∈ after, Text.isBlank c = true

/-- A lower-case hexadecimal digit. -/
def IsDigit (d : Char) : Prop := ∃ n < 16, d = Text.hexDigit n

/-! ## Letter cases -/

/-- A digit and its capital have the digit for their lower case, and they are not blank. -/
theorem IsDigit.lowerChar {c d : Char} (hd : IsDigit d) (h : c = d ∨ c = d.toUpper) :
    Text.lowerChar c = [d] ∧ Text.isBlank c = false := by
  have hdigit : ∀ n < 16, Text.lowerChar (Text.hexDigit n) = [Text.hexDigit n] ∧
      Text.isBlank (Text.hexDigit n) = false := by
    decide +kernel
  have hcapital : ∀ n < 16, Text.lowerChar (Text.hexDigit n).toUpper = [Text.hexDigit n] ∧
      Text.isBlank (Text.hexDigit n).toUpper = false := by
    decide +kernel
  obtain ⟨n, hn, rfl⟩ := hd
  obtain rfl | rfl := h
  · exact hdigit n hn
  · exact hcapital n hn

/-- Digits are in ASCII, and none of them is the lower case of a dotted I or of the Kelvin sign. -/
theorem IsDigit.inAscii {d : Char} (hd : IsDigit d) : d.toNat < 0x80 ∧ d ≠ 'i' ∧ d ≠ 'k' := by
  have hall : ∀ n < 16, (Text.hexDigit n).toNat < 0x80 ∧ Text.hexDigit n ≠ 'i' ∧
      Text.hexDigit n ≠ 'k' := by
    decide
  obtain ⟨n, hn, rfl⟩ := hd
  exact hall n hn

/-- No character outside ASCII has digits for its lower case. -/
theorem toNat_lt_of_lowerChar {c : Char} (h : ∀ d ∈ Text.lowerChar c, IsDigit d) :
    c.toNat < 0x80 := by
  by_contra hc
  by_cases hdot : c.toNat = 0x130
  · have hi : 'i' ∈ Text.lowerChar c := by
      rw [Text.lowerChar, if_neg hc, if_pos hdot]
      exact List.mem_cons_self
    exact (h 'i' hi).inAscii.2.1 rfl
  by_cases hkelvin : c.toNat = 0x212A
  · have hk : Text.lowerChar c = ['k'] := by
      rw [Text.lowerChar, if_neg hc, if_neg hdot, hkelvin]
      decide +kernel
    exact (h 'k' (hk ▸ List.mem_cons_self)).inAscii.2.2 rfl
  · obtain ⟨d, hd⟩ : ∃ d, d ∈ Text.lowerChar c := by
      rw [Text.lowerChar, if_neg hc, if_neg hdot]
      exact ⟨_, List.mem_cons_self⟩
    have houter := Text.isOuter_of_mem_lowerChar ⟨c.valid, Nat.le_of_not_lt hc, hkelvin⟩ hdot hd
    exact absurd (h d hd).inAscii.1 (Nat.not_lt.mpr houter.2.1)

/-- Only a digit and its capital have the digit for their lower case. -/
theorem eq_or_eq_toUpper_of_lowerChar {c : Char} (h : ∀ d ∈ Text.lowerChar c, IsDigit d) :
    ∃ d, Text.lowerChar c = [d] ∧ (c = d ∨ c = d.toUpper) := by
  have hall : ∀ n < 0x80, (∃ m < 16, (Char.ofNat n).toLower = Text.hexDigit m) →
      Char.ofNat n = (Char.ofNat n).toLower ∨ Char.ofNat n = (Char.ofNat n).toLower.toUpper := by
    decide +kernel
  have hc := toNat_lt_of_lowerChar h
  have hlower : Text.lowerChar c = [c.toLower] := by rw [Text.lowerChar, if_pos hc]
  refine ⟨c.toLower, hlower, ?_⟩
  simpa using hall c.toNat hc (by simpa [hlower, IsDigit] using h)

/-- A text has a digest for its lower case exactly if it is the digest in some letter case. -/
theorem flatMap_lowerChar_eq_iff {cs digest : List Char} (hdigest : ∀ d ∈ digest, IsDigit d) :
    cs.flatMap Text.lowerChar = digest ↔ CaseVariant cs digest := by
  constructor
  · rintro rfl
    induction cs with
    | nil => exact .nil
    | cons c cs ih =>
      rw [List.flatMap_cons] at hdigest ⊢
      obtain ⟨d, hd, hc⟩ := eq_or_eq_toUpper_of_lowerChar fun d hd =>
        hdigest d (List.mem_append_left _ hd)
      rw [hd]
      exact .cons hc (ih fun d hd => hdigest d (List.mem_append_right _ hd))
  · intro h
    induction h with
    | nil => rfl
    | cons hc _ ih =>
      rw [List.flatMap_cons, ((hdigest _ List.mem_cons_self).lowerChar hc).1,
        ih fun d hd => hdigest d (List.mem_cons_of_mem _ hd)]
      rfl

/-- There are no blanks in a digest in any letter case. -/
theorem CaseVariant.isBlank_eq_false {cs digest : List Char} (h : CaseVariant cs digest)
    (hdigest : ∀ d ∈ digest, IsDigit d) : ∀ c ∈ cs, Text.isBlank c = false := by
  induction h with
  | nil => exact nofun
  | cons hc _ ih =>
    intro c hmem
    obtain rfl | hmem := List.mem_cons.mp hmem
    · exact ((hdigest _ List.mem_cons_self).lowerChar hc).2
    · exact ih (fun d hd => hdigest d (List.mem_cons_of_mem _ hd)) c hmem

theorem CaseVariant.refl (digest : List Char) : CaseVariant digest digest := by
  induction digest with
  | nil => exact .nil
  | cons d digest ih => exact .cons (.inl rfl) ih

/-! ## The check of a header -/

/-- What is checked is what is left of the header behind the marker. -/
theorem carries_eq_true_iff {header : String} {digest : Plain} :
    carries header digest = true ↔
      ∃ rest, header.toList = marker.toList ++ rest ∧
        (Text.trimBy Text.isBlank rest).flatMap Text.lowerChar = digest.text.toList := by
  have hlower : ∀ rest, Text.lower (Text.trim (String.ofList rest)) = digest.text ↔
      (Text.trimBy Text.isBlank rest).flatMap Text.lowerChar = digest.text.toList := by
    intro rest
    rw [Text.lower, Text.trim, String.toList_ofList, String.toList_ofList, ← String.toList_inj,
      String.toList_ofList]
  rw [carries, Bool.and_eq_true, List.isPrefixOf_iff_prefix, Plain.any_of?_iff, hlower,
    ← String.length_toList]
  constructor
  · rintro ⟨⟨rest, hrest⟩, h⟩
    rw [← hrest, List.drop_left] at h
    exact ⟨rest, hrest.symm, h⟩
  · rintro ⟨rest, hrest, h⟩
    rw [hrest, List.drop_left]
    exact ⟨List.prefix_append _ _, h⟩

/-- **Accepted headers**: the check accepts a header exactly if it is the marker followed by the
digest in some letter case, with blanks around it. -/
theorem carries_iff {header : String} {digest : Plain}
    (hdigest : ∀ d ∈ digest.text.toList, IsDigit d) :
    carries header digest = true ↔ Signed header digest.text := by
  rw [carries_eq_true_iff]
  constructor
  · rintro ⟨rest, hheader, hrest⟩
    obtain ⟨before, after, hsplit, hbefore, hafter⟩ :=
      Text.exists_eq_append_trimBy Text.isBlank rest
    refine ⟨before, Text.trimBy Text.isBlank rest, after, ?_, hbefore, ?_, hafter⟩
    · rw [hheader, ← hsplit]
    · exact (flatMap_lowerChar_eq_iff hdigest).mp hrest
  · -- The digest has no blanks, so just those around it are removed.
    rintro ⟨before, variant, after, hheader, hbefore, hvariant, hafter⟩
    refine ⟨_, hheader, ?_⟩
    rw [Text.trimBy_append hbefore (hvariant.isBlank_eq_false hdigest) hafter]
    exact (flatMap_lowerChar_eq_iff hdigest).mpr hvariant

/-! ## The digest of a body -/

variable {secret : String}

/-- The authentication code of a body under a secret. -/
def code (secret : String) (body : ByteArray) : List UInt8 :=
  Hash.hmac secret.toUTF8.toList body.toList

theorem digest_of_ne_empty (h : secret ≠ "") (body : ByteArray) :
    digest secret body = .ok (.ofBytes (code secret body)) := by
  have hempty : ¬ secret.isEmpty = true := by simpa using h
  rw [digest, if_neg hempty]
  rfl

/-- A digest has nothing but hexadecimal digits. -/
theorem isDigit_of_mem_ofBytes (bytes : List UInt8) :
    ∀ d ∈ (Plain.ofBytes bytes).text.toList, IsDigit d := by
  intro d hd
  rw [Plain.ofBytes, String.toList_ofList] at hd
  obtain ⟨b, -, hd⟩ := List.mem_flatMap.mp hd
  exact Text.exists_hexDigit_of_mem hd

theorem sign_of_ne_empty (h : secret ≠ "") (body : ByteArray) :
    sign secret body = .ok (marker ++ (Plain.ofBytes (code secret body)).text) := by
  rw [sign, digest_of_ne_empty h]
  rfl

theorem verify_some_of_ne_empty (h : secret ≠ "") (header : String) (body : ByteArray) :
    verify secret (some header) body = .ok (carries header (.ofBytes (code secret body))) := by
  rw [verify, digest_of_ne_empty h]
  rfl

theorem verify_none_of_ne_empty (h : secret ≠ "") (body : ByteArray) :
    verify secret none body = .ok false := by
  rw [verify, digest_of_ne_empty h]
  rfl

/-- A header that is accepted for two bodies shows that they have the same code. -/
theorem code_eq_of_verify {header : Option String} {body₁ body₂ : ByteArray}
    (h₁ : verify secret header body₁ = .ok true) (h₂ : verify secret header body₂ = .ok true) :
    code secret body₁ = code secret body₂ := by
  have hsecret := ne_empty_of_verify_eq_ok h₁
  cases header with
  | none => exact absurd h₁ (verify_none_ne secret body₁)
  | some header =>
    rw [verify_some_of_ne_empty hsecret] at h₁ h₂
    obtain ⟨rest₁, hrest₁, hdigest₁⟩ := carries_eq_true_iff.mp (Except.ok.inj h₁)
    obtain ⟨rest₂, hrest₂, hdigest₂⟩ := carries_eq_true_iff.mp (Except.ok.inj h₂)
    obtain rfl := List.append_cancel_left (hrest₁.symm.trans hrest₂)
    have hdigest := hdigest₁.symm.trans hdigest₂
    rw [Plain.ofBytes, Plain.ofBytes, String.toList_ofList, String.toList_ofList] at hdigest
    exact Hash.eq_of_hexText_eq hdigest

/-! ## Verification -/

/-- Under a secret, just the signatures of a body are accepted for it. -/
structure Exact (secret : String) : Prop where
  /-- Only an empty secret is a fault, whatever the header and the body are. -/
  misconfigured : ∀ header body,
    (∃ fault, verify secret header body = .error fault) ↔ secret = ""
  /-- A header is accepted exactly if it holds the digest that the body is signed with. -/
  accepted : secret ≠ "" → ∀ body, ∃ digest, sign secret body = .ok (marker ++ digest) ∧
    ∀ header, verify secret (some header) body = .ok true ↔ Signed header digest
  /-- Every other header is refused. -/
  refused : secret ≠ "" → ∀ header body, verify secret header body ≠ .ok true →
    verify secret header body = .ok false
  /-- So is a body without a header. -/
  missing : secret ≠ "" → ∀ body, verify secret none body = .ok false
  /-- The signature of a body is accepted for it. -/
  own : ∀ body signature, sign secret body = .ok signature →
    verify secret (some signature) body = .ok true
  /-- A header is accepted for two bodies only if they have the same code. -/
  collision : ∀ header body₁ body₂, verify secret header body₁ = .ok true →
    verify secret header body₂ = .ok true → code secret body₁ = code secret body₂

/-- **Only signatures are accepted**: under every secret that is not empty, a header is accepted for
a body exactly if it is the marker followed by the digest with which the body is signed, in any
letter case and with blanks around it. All other headers are refused, and only an empty secret is a
fault. -/
theorem verify_exact (secret : String) : Exact secret where
  misconfigured header body := by
    constructor
    · rintro ⟨fault, h⟩
      by_contra hsecret
      obtain ⟨b, hb⟩ := verify_of_ne_empty hsecret header body
      rw [hb] at h
      cases h
    · rintro rfl
      exact ⟨_, verify_of_empty header body⟩
  accepted hsecret body := by
    refine ⟨_, sign_of_ne_empty hsecret body, ?_⟩
    intro header
    rw [verify_some_of_ne_empty hsecret, ← carries_iff (isDigit_of_mem_ofBytes _)]
    exact ⟨Except.ok.inj, congrArg Except.ok⟩
  refused hsecret header body h := by
    obtain ⟨b, hb⟩ := verify_of_ne_empty hsecret header body
    cases b with
    | false => exact hb
    | true => exact absurd hb h
  missing hsecret body := verify_none_of_ne_empty hsecret body
  own body signature h := by
    have hsecret : secret ≠ "" := by
      rintro rfl
      cases h
    rw [sign_of_ne_empty hsecret] at h
    cases h
    rw [verify_some_of_ne_empty hsecret]
    refine congrArg _ ((carries_iff (isDigit_of_mem_ofBytes _)).mpr ⟨[], _, [], ?_, nofun, .refl _,
      nofun⟩)
    simp
  collision header body₁ body₂ h₁ h₂ := code_eq_of_verify h₁ h₂

/-- Capital digits are accepted, and so are blanks of any script around them. -/
example : verify "k" (some ("sha256=\u3000ADD853B103fbcc936a194f9eb15e29c4" ++
    "ff08af6e47d5d1bca4f20218e31e4fff\t ")) "{}".toUTF8 = .ok true := by decide +kernel

end WebhookRelay.Signature
