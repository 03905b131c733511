/-!
# Blank characters

Two classes of blank characters, and trimming by a class.

- `isWhiteSpace`: the Unicode property White_Space.
- `isBlank`: white space together with the four information separators U+001C to U+001F.
- `trim`: what is left after blanks are removed from both ends.
- `exists_eq_append_trimBy`, `trimBy_append`: what is removed is of the class, and all of it is.
-/

namespace WebhookRelay.Text

/-- The Unicode property White_Space. -/
def isWhiteSpace (c : Char) : Bool :=
  let n := c.toNat
  (0x09 ≤ n && n ≤ 0x0D) || n = 0x20 || n = 0x85 || n = 0xA0 || n = 0x1680 ||
    (0x2000 ≤ n && n ≤ 0x200A) || n = 0x2028 || n = 0x2029 || n = 0x202F || n = 0x205F || n = 0x3000

/-- White space and the information separators U+001C to U+001F. -/
def isBlank (c : Char) : Bool :=
  isWhiteSpace c || (0x1C ≤ c.toNat && c.toNat ≤ 0x1F)

/-- Remove the characters of a class from the end. -/
def trimEndBy (p : Char → Bool) (cs : List Char) : List Char :=
  (cs.reverse.dropWhile p).reverse

/-- Remove the characters of a class from both ends. -/
def trimBy (p : Char → Bool) (cs : List Char) : List Char :=
  trimEndBy p (cs.dropWhile p)

/-- At the end, only characters of the class are removed. -/
theorem exists_eq_trimEndBy_append (p : Char → Bool) (cs : List Char) :
    ∃ after, cs = trimEndBy p cs ++ after ∧ ∀ c ∈ after, p c = true := by
  refine ⟨(cs.reverse.takeWhile p).reverse, ?_, ?_⟩
  · rw [trimEndBy, ← List.reverse_append, List.takeWhile_append_dropWhile, List.reverse_reverse]
  · intro c hc
    exact List.all_eq_true.mp List.all_takeWhile c (List.mem_reverse.mp hc)

/-- At both ends, only characters of the class are removed. -/
theorem exists_eq_append_trimBy (p : Char → Bool) (cs : List Char) :
    ∃ before after, cs = before ++ trimBy p cs ++ after ∧ (∀ c ∈ before, p c = true) ∧
      ∀ c ∈ after, p c = true := by
  obtain ⟨after, hafter, hblank⟩ := exists_eq_trimEndBy_append p (cs.dropWhile p)
  refine ⟨cs.takeWhile p, after, ?_, ?_, hblank⟩
  · rw [trimBy, List.append_assoc, ← hafter, List.takeWhile_append_dropWhile]
  · exact List.all_eq_true.mp List.all_takeWhile

/-- A text without characters of the class stays when such follow it. -/
theorem trimEndBy_append {p : Char → Bool} {core after : List Char}
    (hcore : ∀ c ∈ core, p c = false) (hafter : ∀ c ∈ after, p c = true) :
    trimEndBy p (core ++ after) = core := by
  have hkept : core.reverse.dropWhile p = core.reverse := by
    cases hreverse : core.reverse with
    | nil => rfl
    | cons c cs =>
      have hc : p c = false := hcore c (List.mem_reverse.mp (hreverse ▸ List.mem_cons_self))
      rw [List.dropWhile_cons_of_neg (Bool.not_eq_true _ ▸ hc)]
  rw [trimEndBy, List.reverse_append, List.dropWhile_append_of_pos, hkept, List.reverse_reverse]
  exact fun c hc => hafter c (List.mem_reverse.mp hc)

/-- A text without characters of the class is what is left when such stand around it. -/
theorem trimBy_append {p : Char → Bool} {before core after : List Char}
    (hbefore : ∀ c ∈ before, p c = true) (hcore : ∀ c ∈ core, p c = false)
    (hafter : ∀ c ∈ after, p c = true) : trimBy p (before ++ core ++ after) = core := by
  rw [trimBy, List.append_assoc, List.dropWhile_append_of_pos hbefore]
  cases core with
  | nil =>
    rw [List.nil_append, ← after.append_nil, List.dropWhile_append_of_pos hafter]
    rfl
  | cons c core =>
    have hc : p c = false := hcore c List.mem_cons_self
    rw [List.cons_append, List.dropWhile_cons_of_neg (Bool.not_eq_true _ ▸ hc), ← List.cons_append]
    exact trimEndBy_append hcore hafter

/-- Remove blanks from both ends. -/
def trim (s : String) : String :=
  String.ofList (trimBy isBlank s.toList)

/-- Is there nothing but blanks? -/
def isAllBlank (s : String) : Bool :=
  s.toList.all isBlank

end WebhookRelay.Text
