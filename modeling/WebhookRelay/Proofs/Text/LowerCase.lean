import WebhookRelay.Text.LowerCase

/-!
# Lower case twice

The table of lower cases leads from characters outside ASCII to such again, with two exceptions: the
kelvin sign, whose lower case is a plain letter, and the dotted capital I. So a text in lower case
that has ASCII for its own lower case is that ASCII already, and names in lower case can be compared
with ASCII names as they are.

- `IsOuter`: the characters outside ASCII, without the kelvin sign.
- `isOuter_lowerCodePoint`: the rows of the table lead from outer characters to outer ones.
- `lower_lower`: the lower case of lower case, where it is ASCII.
- `lower_latin`: lower case leads from the first 256 characters to such only.
-/

namespace WebhookRelay.Text

/-- A character outside ASCII, other than the kelvin sign, whose lower case is a letter of ASCII. -/
def IsOuter (n : Nat) : Prop := n.isValidChar ∧ 0x80 ≤ n ∧ n ≠ 0x212A

/-- Does a row lead from outer code points to outer ones only? -/
def keepsOuter : Nat × Nat × Nat × Int → Bool
  | (first, last, _, offset) =>
    last < 0x80 || first = 0x212A && last = 0x212A || 0x80 ≤ first + offset &&
      (last + offset < 0xD800 || 0xDFFF < first + offset && last + offset < 0x110000) &&
      (last + offset < 0x212A || 0x212A < first + offset)

/-- All rows do. -/
theorem keepsOuter_lowerCaseRows : ∀ row ∈ lowerCaseRows, keepsOuter row = true := by
  decide +kernel

/-- Rows that keep outer code points lead from them to such only. -/
theorem isOuter_lowerCodePoint {rows : List (Nat × Nat × Nat × Int)}
    (hrows : ∀ row ∈ rows, keepsOuter row = true) {n : Nat} (hn : IsOuter n) :
    IsOuter (lowerCodePoint rows n) := by
  induction rows with
  | nil => exact hn
  | cons row rows ih =>
    obtain ⟨first, last, stride, offset⟩ := row
    have hrow := hrows _ List.mem_cons_self
    rw [lowerCodePoint]
    by_cases hfirst : n < first
    · rw [if_pos hfirst]
      exact hn
    rw [if_neg hfirst]
    by_cases hin : (n ≤ last && (n - first) % stride = 0) = true
    · rw [if_pos hin]
      have hlast : n ≤ last := by simp at hin; exact hin.1
      obtain ⟨-, hascii, hkelvin⟩ := hn
      simp only [keepsOuter, Bool.or_eq_true, Bool.and_eq_true, decide_eq_true_eq] at hrow
      unfold IsOuter Nat.isValidChar
      omega
    · rw [if_neg hin]
      exact ih fun row hmem => hrows row (List.mem_cons_of_mem _ hmem)

/-- The lower case of an outer character is an outer one, except for that of a dotted capital. -/
theorem isOuter_of_mem_lowerChar {c d : Char} (hc : IsOuter c.toNat) (hdot : c.toNat ≠ 0x130)
    (hd : d ∈ lowerChar c) : IsOuter d.toNat := by
  have hlower := isOuter_lowerCodePoint keepsOuter_lowerCaseRows hc
  unfold lowerChar at hd
  rw [if_neg (Nat.not_lt.mpr hc.2.1), if_neg hdot, List.mem_singleton] at hd
  rw [hd]
  have htoNat : (Char.ofNat (lowerCodePoint lowerCaseRows c.toNat)).toNat =
      lowerCodePoint lowerCaseRows c.toNat := by
    rw [Char.ofNat, dif_pos hlower.1]
    rfl
  rwa [htoNat]

/-- The lower case of an ASCII character is in lower case. -/
theorem lowerChar_toLower {c : Char} (hc : c.toNat < 0x80) : lowerChar c.toLower = [c.toLower] := by
  have hall : ∀ n < 0x80, lowerChar (Char.ofNat n).toLower = [(Char.ofNat n).toLower] := by
    decide +kernel
  simpa using hall c.toNat hc

/-- Where the lower case of a character has ASCII for its own lower case, it is in lower case. -/
theorem lowerChar_of_mem_lowerChar {c d : Char} (hd : d ∈ lowerChar c)
    (hascii : ∀ e ∈ lowerChar d, e.toNat < 0x80) : lowerChar d = [d] := by
  by_cases hc : c.toNat < 0x80
  · rw [lowerChar, if_pos hc, List.mem_singleton] at hd
    rw [hd]
    exact lowerChar_toLower hc
  by_cases hdot : c.toNat = 0x130
  · rw [lowerChar, if_neg hc, if_pos hdot, List.mem_cons, List.mem_singleton] at hd
    obtain rfl | rfl := hd <;> decide +kernel
  by_cases hkelvin : c.toNat = 0x212A
  · have hk : lowerChar c = ['k'] := by
      rw [lowerChar, if_neg hc, if_neg hdot, hkelvin]
      decide +kernel
    rw [hk, List.mem_singleton] at hd
    rw [hd]
    decide
  -- Otherwise ASCII is out of reach.
  exfalso
  have houter := isOuter_of_mem_lowerChar ⟨c.valid, Nat.le_of_not_lt hc, hkelvin⟩ hdot hd
  by_cases hdot' : d.toNat = 0x130
  · have hmem : Char.ofNat 0x307 ∈ lowerChar d := by
      rw [lowerChar, if_neg (Nat.not_lt.mpr houter.2.1), if_pos hdot']
      exact List.mem_cons_of_mem _ List.mem_cons_self
    exact absurd (hascii _ hmem) (by decide)
  · obtain ⟨e, he⟩ : ∃ e, e ∈ lowerChar d := by
      rw [lowerChar, if_neg (Nat.not_lt.mpr houter.2.1), if_neg hdot']
      exact ⟨_, List.mem_singleton_self _⟩
    exact absurd (hascii e he) (Nat.not_lt.mpr (isOuter_of_mem_lowerChar houter hdot' he).2.1)

/-- A text in lower case that has ASCII for its own lower case stays as it is. -/
theorem lower_lower {s : String} (hascii : ∀ c ∈ (lower (lower s)).toList, c.toNat < 0x80) :
    lower (lower s) = lower s := by
  have hfixed : ∀ d ∈ (lower s).toList, lowerChar d = [d] := by
    intro d hd
    obtain ⟨c, -, hdc⟩ := List.mem_flatMap.mp (by simpa [lower] using hd)
    refine lowerChar_of_mem_lowerChar hdc fun e he => hascii e ?_
    rw [lower, String.toList_ofList]
    exact List.mem_flatMap.mpr ⟨d, hd, he⟩
  have hsame : (lower s).toList.flatMap lowerChar = (lower s).toList := by
    rw [List.flatMap_def, List.map_congr_left hfixed, ← List.flatMap_def, List.flatMap_singleton']
  show String.ofList ((lower s).toList.flatMap lowerChar) = lower s
  rw [hsame, String.ofList_toList]

/-- A text in the first 256 characters stays there. -/
theorem lower_latin {s : String} (hs : ∀ c ∈ s.toList, c.toNat < 0x100) :
    ∀ c ∈ (lower s).toList, c.toNat < 0x100 := by
  have hall : ∀ n < 0x100, (lowerChar (Char.ofNat n)).all (·.toNat < 0x100) = true := by
    decide +kernel
  intro d hd
  obtain ⟨c, hc, hdc⟩ := List.mem_flatMap.mp (by simpa [lower] using hd)
  have hlower := List.all_eq_true.mp (hall c.toNat (hs c hc)) d (by simpa using hdc)
  exact of_decide_eq_true hlower

end WebhookRelay.Text
