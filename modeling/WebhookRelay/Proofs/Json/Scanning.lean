import WebhookRelay.Json.Reader
import WebhookRelay.Json.Writer

/-!
# Scanning what has been written

Every string, number and constant that is written is scanned as one token, whatever comes after it,
as long as that does not go on with a number.

- `scanTokens_append`, `scanTokens_separators`: the scanner goes on behind a token or blanks.
- `scanTokens_writeString`: a string is scanned back character by character.
- `Stops`: what may come after a number.
- `scanTokens_showInteger`, `scanTokens_constant`: integers that have not too many digits, and
  constants, are scanned back.
-/

namespace WebhookRelay.Json

/-! ## Tokens one after another -/

/-- The characters that belong to the token before are passed over. -/
theorem scanTokens_skip (p : Nat) (cs rest : List Char) :
    scanTokens cs.length p (cs ++ rest) = scanTokens 0 (p + cs.length) rest := by
  induction cs generalizing p with
  | nil => rfl
  | cons c cs ih =>
    rw [List.length_cons, List.cons_append, scanTokens, ih, Nat.add_assoc, Nat.add_comm 1]

/-- Blanks are passed over. -/
theorem scanTokens_separators (p : Nat) {cs : List Char} (h : ∀ c ∈ cs, isSeparator c = true)
    (rest : List Char) : scanTokens 0 p (cs ++ rest) = scanTokens 0 (p + cs.length) rest := by
  induction cs generalizing p with
  | nil => rfl
  | cons c cs ih =>
    have hc : isSeparator c = true := h c List.mem_cons_self
    have hcs : ∀ c ∈ cs, isSeparator c = true := fun c hmem => h c (List.mem_cons_of_mem _ hmem)
    rw [List.cons_append, scanTokens, if_pos hc, ih (p + 1) hcs, List.length_cons, Nat.add_assoc,
      Nat.add_comm 1]

/-- A token is scanned, and the scanner goes on behind it. -/
theorem scanTokens_append {p : Nat} {c : Char} {cs rest : List Char} {lexeme : Lexeme}
    (hc : isSeparator c = false) (h : scanLexeme p c (cs ++ rest) = (lexeme, cs.length)) :
    scanTokens 0 p (c :: cs ++ rest) =
      ⟨p, lexeme⟩ :: scanTokens 0 (p + (c :: cs).length) rest := by
  rw [List.cons_append, scanTokens, hc, if_neg Bool.false_ne_true, h]
  dsimp only
  rw [scanTokens_skip, List.length_cons, Nat.add_assoc, Nat.add_comm 1]

/-! ## Strings -/

/-- The digits of an escape by code are those of its character. -/
theorem hexDigits_eq_quad : ∀ n < 0x20, ∃ a b c d,
    Text.hexDigits 4 n = [a, b, c, d] ∧ hexQuad? a b c d = some n := by
  intro n hn
  refine ⟨_, _, _, _, rfl, ?_⟩
  have hall : ∀ n < 0x20, hexQuad? (Text.hexDigit (n / 16 / 16 / 16 % 16))
      (Text.hexDigit (n / 16 / 16 % 16)) (Text.hexDigit (n / 16 % 16)) (Text.hexDigit (n % 16)) =
        some n := by decide
  exact hall n hn

/-- A control character is scanned back from its code. -/
theorem scanString_code (n : Nat) {unit : Nat} (hunit : unit < 0x20) {rest : List Char}
    (hrest : rest ≠ []) :
    scanString none n ('\\' :: 'u' :: Text.hexDigits 4 unit ++ rest) =
      prepend [Char.ofNat unit] (scanString none (n + 6) rest) := by
  obtain ⟨a, b, c, d, hdigits, hquad⟩ := hexDigits_eq_quad unit hunit
  have hhigh : isHighSurrogate unit = false := by
    simp only [isHighSurrogate, Bool.and_eq_false_iff, decide_eq_false_iff_not]
    omega
  have hlow : isLowSurrogate unit = false := by
    simp only [isLowSurrogate, Bool.and_eq_false_iff, decide_eq_false_iff_not]
    omega
  have hempty : rest.isEmpty = false := List.isEmpty_eq_false_iff.mpr hrest
  rw [hdigits]
  simp only [List.cons_append, List.nil_append]
  rw [scanString, hquad]
  simp only [hempty, hhigh, Bool.false_eq_true, if_false, unitChars, hlow]

/-- A character that needs no escape is scanned as it is. -/
theorem scanString_plain (n : Nat) {c : Char} (hquote : c ≠ '"') (hslash : c ≠ '\\')
    (hcontrol : ¬ c.toNat < 0x20) (rest : List Char) :
    scanString none n (c :: rest) = prepend [c] (scanString none (n + 1) rest) := by
  rw [scanString]
  · rw [if_neg hcontrol]
    rfl
  · exact hquote
  · exact fun h => absurd h hslash
  · exact fun _ _ _ _ _ h => absurd h hslash
  · exact fun _ h => absurd h hslash
  · exact fun _ _ h => absurd h hslash

/-- Every character is scanned back from how it is written, if something follows. -/
theorem scanString_escapeChar (n : Nat) (c : Char) {rest : List Char} (hrest : rest ≠ []) :
    scanString none n (escapeChar c ++ rest) =
      prepend [c] (scanString none (n + (escapeChar c).length) rest) := by
  unfold escapeChar
  by_cases hquote : c = '"'
  · subst hquote
    rfl
  by_cases hslash : c = '\\'
  · subst hslash
    rfl
  rw [if_neg hquote, if_neg hslash]
  by_cases hline : c = '\n'
  · subst hline
    rfl
  by_cases hreturn : c = '\r'
  · subst hreturn
    rfl
  by_cases htab : c = '\t'
  · subst htab
    rfl
  by_cases hfeed : c = '\x0c'
  · subst hfeed
    rfl
  by_cases hback : c = '\x08'
  · subst hback
    rfl
  rw [if_neg hline, if_neg hreturn, if_neg htab, if_neg hfeed, if_neg hback]
  by_cases hcontrol : c.toNat < 0x20
  · rw [if_pos hcontrol, scanString_code n hcontrol hrest, Char.ofNat_toNat]
    simp
  · rw [if_neg hcontrol]
    exact scanString_plain n hquote hslash hcontrol rest

/-- A string is scanned back character by character, up to its closing quote. -/
theorem scanString_flatMap_escapeChar (n : Nat) (cs rest : List Char) :
    scanString none n (cs.flatMap escapeChar ++ '"' :: rest) =
      .ok (cs, n + (cs.flatMap escapeChar).length + 1) := by
  induction cs generalizing n with
  | nil => rfl
  | cons c cs ih =>
    have hrest : cs.flatMap escapeChar ++ '"' :: rest ≠ [] := by simp
    rw [List.flatMap_cons, List.append_assoc, scanString_escapeChar n c hrest, ih,
      List.length_append, Nat.add_assoc n]
    rfl

/-- A written string is one token. -/
theorem scanTokens_writeString (p : Nat) (s : String) (rest : List Char) :
    scanTokens 0 p (writeString s ++ rest) =
      ⟨p, .text s⟩ :: scanTokens 0 (p + (writeString s).length) rest := by
  have hscan := scanString_flatMap_escapeChar 0 s.toList rest
  have hwrite : writeString s = '"' :: (s.toList.flatMap escapeChar ++ ['"']) := rfl
  rw [hwrite]
  refine scanTokens_append rfl ?_
  rw [List.append_assoc, List.singleton_append, List.length_append, List.length_singleton]
  simp only [scanLexeme, hscan, String.ofList_toList, Nat.zero_add]

/-! ## Numbers -/

/-- A text does not go on with a number. -/
def Stops (rest : List Char) : Prop :=
  ∀ c ∈ rest.head?, c.isDigit = false ∧ c ≠ '.' ∧ c ≠ 'e' ∧ c ≠ 'E'

/-- The digits end where the number does. -/
theorem Stops.takeWhile_append {digits rest : List Char} (h : Stops rest)
    (hdigits : ∀ c ∈ digits, c.isDigit = true) :
    (digits ++ rest).takeWhile Char.isDigit = digits := by
  rw [List.takeWhile_append_of_pos hdigits]
  cases rest with
  | nil => simp
  | cons c rest =>
    have hc := (h c rfl).1
    rw [List.takeWhile_cons_of_neg (by rw [hc]; exact Bool.false_ne_true), List.append_nil]

/-- No fraction follows. -/
theorem Stops.scanFraction {rest : List Char} (h : Stops rest) : scanFraction rest = [] := by
  unfold Json.scanFraction
  split
  · exact absurd rfl (h '.' rfl).2.1
  · rfl

/-- No exponent follows. -/
theorem Stops.scanExponent {rest : List Char} (h : Stops rest) : scanExponent rest = (0, 0) := by
  cases rest with
  | nil => rfl
  | cons c rest =>
    obtain ⟨-, -, he, hE⟩ := h c rfl
    unfold Json.scanExponent
    simp [he, hE]

/-- The value of a digit is how far it is from zero. -/
theorem digitValue?_of_isDigit {c : Char} (h : c.isDigit = true) :
    Text.digitValue? c = some (c.toNat - '0'.toNat) := by
  have hall : ∀ n < 0x80, (Char.ofNat n).isDigit = true →
      Text.digitValue? (Char.ofNat n) = some ((Char.ofNat n).toNat - '0'.toNat) := by decide +kernel
  have hascii : c.toNat < 0x80 := by
    simp only [Char.isDigit, Bool.and_eq_true, decide_eq_true_eq] at h
    have := UInt32.le_iff_toNat_le.mp h.2
    simp at this
    omega
  simpa using hall c.toNat hascii (by simpa using h)

/-- Decimal digits have the value of the number for which they are written. -/
theorem digitsValue_showNatural (n : Nat) : Text.digitsValue (Text.showNatural n) = n := by
  have hfold : ∀ (cs : List Char) (init : Nat), (∀ c ∈ cs, c.isDigit = true) →
      cs.foldl (fun n c => 10 * n + (Text.digitValue? c).getD 0) init =
        Nat.ofDigitChars 10 cs init := by
    intro cs
    induction cs with
    | nil => exact fun init _ => by simp
    | cons c cs ih =>
      intro init h
      rw [List.foldl_cons, digitValue?_of_isDigit (h c List.mem_cons_self),
        ih _ fun c hmem => h c (List.mem_cons_of_mem _ hmem), Nat.ofDigitChars_cons]
      rfl
  unfold Text.digitsValue Text.showNatural
  rw [hfold _ 0 fun c hmem => Nat.isDigit_of_mem_toDigits (by omega) (by omega) hmem]
  exact Nat.ofDigitChars_ten_toDigits

/-- No number but zero starts with a zero. -/
theorem exists_showNatural_eq_cons {n : Nat} (h : 0 < n) :
    ∃ c cs, Text.showNatural n = c :: cs ∧ c ≠ '0' := by
  unfold Text.showNatural
  induction n using Nat.strongRecOn with
  | ind n ih =>
    by_cases hn : n < 10
    · -- One digit is left.
      refine ⟨n.digitChar, [], Nat.toDigits_of_lt_base hn, ?_⟩
      have hall : ∀ n < 10, 0 < n → n.digitChar ≠ '0' := by decide
      exact hall n hn h
    · obtain ⟨c, cs, hdigits, hc⟩ := ih (n / 10) (by omega) (by omega)
      refine ⟨c, cs ++ [(n % 10).digitChar], ?_, hc⟩
      rw [Nat.toDigits_of_base_le (by omega) (by omega), hdigits, List.cons_append]

/-- All characters of a natural number are digits. -/
theorem isDigit_of_mem_showNatural {n : Nat} {c : Char} (h : c ∈ Text.showNatural n) :
    c.isDigit = true :=
  Nat.isDigit_of_mem_toDigits (by omega) (by omega) h

/-- A natural number starts with a digit. -/
theorem exists_showNatural_eq_digit_cons (n : Nat) :
    ∃ c cs, Text.showNatural n = c :: cs ∧ c.isDigit = true := by
  have hne : Text.showNatural n ≠ [] := Nat.toDigits_ne_nil
  obtain ⟨c, cs, hcons⟩ := List.exists_cons_of_ne_nil hne
  have hmem : c ∈ Text.showNatural n := hcons ▸ List.mem_cons_self
  exact ⟨c, cs, hcons, isDigit_of_mem_showNatural hmem⟩

/-- A digit is no other character. -/
theorem ne_of_isDigit {c d : Char} (hd : d.isDigit = true) (hc : c.isDigit = false) : d ≠ c := by
  rintro rfl
  exact Bool.false_ne_true (hc.symm.trans hd)

/-- The digits of a number are a whole part. -/
theorem scanWhole_showNatural (n : Nat) {rest : List Char} (h : Stops rest) :
    scanWhole (Text.showNatural n ++ rest) = Text.showNatural n := by
  by_cases hn : n = 0
  · subst hn
    rfl
  · obtain ⟨c, cs, hcons, hc⟩ := exists_showNatural_eq_cons (Nat.pos_of_ne_zero hn)
    have htake := h.takeWhile_append fun c (hmem : c ∈ Text.showNatural n) =>
      isDigit_of_mem_showNatural hmem
    rw [hcons, List.cons_append] at htake ⊢
    rw [scanWhole, htake]
    exact fun _ heq => hc (List.cons.inj heq).1

/-- A natural number is scanned back. -/
theorem scanUnsigned?_showNatural (negative : Bool) (n : Nat) {rest : List Char} (h : Stops rest) :
    scanUnsigned? negative (Text.showNatural n ++ rest) =
      some (.int (if negative then -(n : Int) else n), (Text.showNatural n).length) := by
  have hempty : (Text.showNatural n).isEmpty = false :=
    List.isEmpty_eq_false_iff.mpr Nat.toDigits_ne_nil
  unfold scanUnsigned?
  simp only [scanWhole_showNatural n h, hempty, List.drop_left, h.scanFraction, List.isEmpty_nil,
    List.drop_zero, h.scanExponent, digitsValue_showNatural, Nat.add_zero, Bool.false_eq_true,
    if_false, if_true]

/-- A number with a sign is scanned back. -/
theorem scanNumber?_showInteger (n : Int) {rest : List Char} (h : Stops rest) :
    scanNumber? (Text.showInteger n ++ rest) = some (.int n, (Text.showInteger n).length) := by
  cases n with
  | ofNat n =>
    obtain ⟨c, cs, hcons, hdigit⟩ := exists_showNatural_eq_digit_cons n
    have hsign : c ≠ '-' := ne_of_isDigit hdigit rfl
    have hscan := scanUnsigned?_showNatural false n h
    rw [hcons, List.cons_append] at hscan
    rw [Text.showInteger, hcons, List.cons_append, scanNumber?, hscan]
    · rfl
    · exact fun _ heq => hsign (List.cons.inj heq).1
  | negSucc n =>
    rw [Text.showInteger, List.cons_append, scanNumber?, scanUnsigned?_showNatural true _ h]
    rfl

/-! ## Scalars -/

/-- No constant starts as a number does. -/
theorem scanConstant?_showInteger (n : Int) (rest : List Char) :
    scanConstant? (Text.showInteger n ++ rest) = none := by
  have hletters : ∀ d : Char, d.isDigit = true →
      ∀ c ∈ ['n', 't', 'f', 'N', 'I', '-'], (c == d) = false := by
    intro d hd c hmem
    have hall : ∀ c ∈ ['n', 't', 'f', 'N', 'I', '-'], c.isDigit = false := by simp
    exact beq_eq_false_iff_ne.mpr (ne_of_isDigit hd (hall c hmem)).symm
  simp only [List.mem_cons, List.not_mem_nil, or_false, forall_eq_or_imp, forall_eq] at hletters
  unfold scanConstant? constants
  cases n with
  | ofNat n =>
    obtain ⟨c, cs, hcons, hdigit⟩ := exists_showNatural_eq_digit_cons n
    simp [Text.showInteger, hcons, List.isPrefixOf, hletters c hdigit]
  | negSucc n =>
    obtain ⟨c, cs, hcons, hdigit⟩ := exists_showNatural_eq_digit_cons (n + 1)
    simp [Text.showInteger, hcons, List.isPrefixOf, hletters c hdigit]

/-- The characters that are tokens on their own, and the quote. -/
def delimiters : List Char := ['[', ']', '\x7b', '\x7d', ',', ':', '"']

/-- What starts with no delimiter is scanned as a constant or a number, unless that has too many
digits. -/
theorem scanLexeme_scalar (p : Nat) {c : Char} {rest : List Char} {v : Json} {n : Nat}
    (hc : c ∉ delimiters)
    (h : (scanConstant? (c :: rest)).or (scanNumber? (c :: rest)) = some (v, n))
    (hshort : v.hasOverlong = false) : scanLexeme p c rest = (.scalar v, n - 1) := by
  simp only [delimiters, List.mem_cons, List.not_mem_nil, or_false, not_or] at hc
  obtain ⟨hopen, hclose, hopen', hclose', hcomma, hcolon, hquote⟩ := hc
  rw [scanLexeme, h]
  · dsimp only
    rw [hshort, if_neg Bool.false_ne_true]
  · exact hopen
  · exact hclose
  · exact hopen'
  · exact hclose'
  · exact hcomma
  · exact hcolon
  · exact hquote

/-- An integer starts with a digit or a minus sign. -/
theorem exists_showInteger_eq_cons (n : Int) :
    ∃ c cs, Text.showInteger n = c :: cs ∧
      ∀ d : Char, d.isDigit = false → d ≠ '-' → c ≠ d := by
  cases n with
  | ofNat n =>
    obtain ⟨c, cs, hcons, hdigit⟩ := exists_showNatural_eq_digit_cons n
    exact ⟨c, cs, hcons, fun d hd _ => ne_of_isDigit hdigit hd⟩
  | negSucc n => exact ⟨'-', Text.showNatural (n + 1), rfl, fun d _ hd => hd.symm⟩

/-- An integer is one token, unless it has too many digits. -/
theorem scanTokens_showInteger (p : Nat) {n : Int} (hshort : Text.isOverlong n = false)
    {rest : List Char} (h : Stops rest) :
    scanTokens 0 p (Text.showInteger n ++ rest) =
      ⟨p, .scalar (.int n)⟩ :: scanTokens 0 (p + (Text.showInteger n).length) rest := by
  obtain ⟨c, cs, hcons, hne⟩ := exists_showInteger_eq_cons n
  have hconstant := scanConstant?_showInteger n rest
  have hnumber := scanNumber?_showInteger n h
  rw [hcons, List.cons_append] at hconstant hnumber
  have hdelimiter : c ∉ delimiters := by
    intro hmem
    have hall : ∀ d ∈ delimiters, d.isDigit = false ∧ d ≠ '-' := by simp [delimiters]
    exact hne c (hall c hmem).1 (hall c hmem).2 rfl
  have hblank : isSeparator c = false := by
    simp [isSeparator, hne ' ' rfl, hne '\t' rfl, hne '\n' rfl, hne '\r' rfl]
  have hscan : (scanConstant? (c :: (cs ++ rest))).or (scanNumber? (c :: (cs ++ rest))) =
      some (.int n, (c :: cs).length) := by
    rw [hconstant, hnumber, Option.none_or]
  rw [hcons]
  refine scanTokens_append hblank ?_
  rw [scanLexeme_scalar p hdelimiter hscan hshort]
  rfl

/-- A constant is one token. -/
theorem scanTokens_constant (p : Nat) {name : List Char} {v : Json}
    (h : (name, v) ∈
      [("null".toList, .null), ("true".toList, .bool true), ("false".toList, .bool false)])
    (rest : List Char) :
    scanTokens 0 p (name ++ rest) = ⟨p, .scalar v⟩ :: scanTokens 0 (p + name.length) rest := by
  simp only [List.mem_cons, List.not_mem_nil, or_false, Prod.mk.injEq] at h
  obtain ⟨rfl, rfl⟩ | ⟨rfl, rfl⟩ | ⟨rfl, rfl⟩ := h
  · exact scanTokens_append rfl rfl
  · exact scanTokens_append rfl rfl
  · exact scanTokens_append rfl rfl

end WebhookRelay.Json
