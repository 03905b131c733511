import Mathlib.Algebra.Ring.Parity
import Mathlib.Data.List.DropRight
import WebhookRelay.Template

/-!
# Bars pair up

The pieces of a template are the only way to read it in which every placeholder stands on one line
and a bar that belongs to no placeholder is the last one of its line.

- `Paired`: what makes a list of pieces such a reading.
- `BarsLast`: each bar in a text is the last one of its line.
- `scanFrom_chars`: a paired list is what its characters are read as.
- `paired_scanFrom`: what is read is paired, and nothing is lost.
- `even_barsOnLine`: an even number of bars stands before each bar that opens a placeholder.
-/

namespace WebhookRelay.Template

/-- The characters of some pieces as they stand in the template. -/
def chars (spans : List Span) : List Char := spans.flatMap (·.text.toList)

/-- What comes before the next line. -/
def restOfLine (cs : List Char) : List Char := cs.takeWhile (· ≠ '\n')

/-- The number of bars since the last line began. -/
def barsOnLine (cs : List Char) : Nat := (cs.rtakeWhile (· ≠ '\n')).count '|'

/-- In a text that is followed by another, each bar is the last one of its line. -/
def BarsLast (cs rest : List Char) : Prop :=
  ∀ u v, cs = u ++ '|' :: v → '|' ∉ restOfLine (v ++ rest)

/-- A list of pieces in which the bars pair up. -/
structure Paired (spans : List Span) : Prop where
  /-- The query of a placeholder has no bars, and it ends on the line where it begins. -/
  queries : ∀ e, .placeholder e ∈ spans → '|' ∉ e.toList ∧ '\n' ∉ e.toList
  /-- No literal is empty. -/
  literals : ∀ s, .literal s ∈ spans → s ≠ ""
  /-- No literal comes directly after another. -/
  apart : ∀ before s t after, spans ≠ before ++ .literal s :: .literal t :: after
  /-- A bar in a literal is the last one of its line. -/
  bars : ∀ before s after, spans = before ++ .literal s :: after → BarsLast s.toList (chars after)

variable {reversed cs rest : List Char} {spans : List Span}

/-! ## Characters -/

@[simp] theorem chars_nil : chars [] = [] := rfl

@[simp] theorem chars_literal (s : String) (spans : List Span) :
    chars (.literal s :: spans) = s.toList ++ chars spans := rfl

@[simp] theorem chars_placeholder (e : String) (spans : List Span) :
    chars (.placeholder e :: spans) = '|' :: (e.toList ++ '|' :: chars spans) := by
  simp [chars, Span.text]

@[simp] theorem chars_append (spans spans' : List Span) :
    chars (spans ++ spans') = chars spans ++ chars spans' :=
  List.flatMap_append

/-- The texts of pieces make the text of their characters. -/
theorem join_texts (spans : List Span) :
    String.join (spans.map Span.text) = String.ofList (chars spans) := by
  rw [← String.toList_inj, String.toList_join, String.toList_ofList, List.flatMap_map]
  rfl

/-! ## Lines -/

/-- A text without line ends comes before what is left of the line. -/
theorem restOfLine_append (h : '\n' ∉ cs) (rest : List Char) :
    restOfLine (cs ++ rest) = cs ++ restOfLine rest := by
  refine List.takeWhile_append_of_pos fun c hc => decide_eq_true ?_
  rintro rfl
  exact h hc

/-- A bar is on its own line. -/
theorem bar_mem_restOfLine (rest : List Char) : '|' ∈ restOfLine ('|' :: rest) := by
  rw [restOfLine, List.takeWhile_cons_of_pos (by decide)]
  exact List.mem_cons_self

/-- A text without line ends goes on with the line. -/
theorem barsOnLine_append (before : List Char) (h : '\n' ∉ cs) :
    barsOnLine (before ++ cs) = barsOnLine before + cs.count '|' := by
  unfold barsOnLine List.rtakeWhile
  rw [List.reverse_append, List.takeWhile_append_of_pos, List.reverse_append,
    List.reverse_reverse, List.count_append]
  intro c hc
  refine decide_eq_true ?_
  rintro rfl
  exact h (List.mem_reverse.mp hc)

/-- Behind a line end only the new line matters. -/
theorem barsOnLine_of_lineEnd (before : List Char) (h : '\n' ∉ cs) :
    barsOnLine (before ++ '\n' :: cs) = cs.count '|' := by
  have hline : barsOnLine (before ++ ['\n']) = 0 := by
    rw [barsOnLine, List.rtakeWhile_concat_neg _ _ _ (by decide)]
    rfl
  rw [List.append_cons, barsOnLine_append _ h, hline, Nat.zero_add]

/-- A text with a line end has a last line. -/
theorem exists_lastLine (h : '\n' ∈ cs) :
    ∃ before last, cs = before ++ '\n' :: last ∧ '\n' ∉ last := by
  obtain ⟨last, before, hcs, hlast⟩ := List.eq_append_cons_of_mem (List.mem_reverse.mpr h)
  refine ⟨before.reverse, last.reverse, ?_, ?_⟩
  · rw [← cs.reverse_reverse, hcs]
    simp
  · rwa [List.mem_reverse]

/-! ## Bars at the ends of lines -/

theorem BarsLast.nil (rest : List Char) : BarsLast [] rest := by
  intro u v h
  cases u <;> cases h

theorem barsLast_cons_iff {c : Char} :
    BarsLast (c :: cs) rest ↔ (c = '|' → '|' ∉ restOfLine (cs ++ rest)) ∧ BarsLast cs rest := by
  constructor
  · intro h
    refine ⟨?_, ?_⟩
    · rintro rfl
      exact h [] cs rfl
    · rintro u v rfl
      exact h (c :: u) v rfl
  · rintro ⟨hc, hcs⟩ u v h
    cases u with
    | nil =>
      obtain ⟨rfl, rfl⟩ := List.cons.inj h
      exact hc rfl
    | cons d u =>
      obtain ⟨-, rfl⟩ := List.cons.inj h
      exact hcs u v rfl

/-- The rest of a text is what its beginning is followed by. -/
theorem barsLast_append_iff {cs' : List Char} :
    BarsLast (cs ++ cs') rest ↔ BarsLast cs (cs' ++ rest) ∧ BarsLast cs' rest := by
  induction cs with
  | nil => simp [BarsLast.nil]
  | cons c cs ih =>
    rw [List.cons_append, barsLast_cons_iff, barsLast_cons_iff, ih, List.append_assoc, and_assoc]

/-- A character goes from what follows to the end of a text that is kept in reverse. -/
theorem BarsLast.push {c : Char} (h : BarsLast reversed.reverse (c :: rest))
    (hc : c = '|' → '|' ∉ restOfLine rest) : BarsLast (c :: reversed).reverse rest := by
  rw [List.reverse_cons]
  exact barsLast_append_iff.mpr ⟨h, barsLast_cons_iff.mpr ⟨hc, .nil rest⟩⟩

/-- If a bar follows on the same line, there is none before it on that line. -/
theorem BarsLast.not_mem (h : BarsLast cs rest) (hcs : '\n' ∉ cs) (hrest : '|' ∈ restOfLine rest) :
    '|' ∉ cs := by
  intro hbar
  obtain ⟨u, v, rfl⟩ := List.append_of_mem hbar
  have hv : '\n' ∉ v := fun hv => hcs (List.mem_append_right u (List.mem_cons_of_mem _ hv))
  refine h u v rfl ?_
  rw [restOfLine_append hv]
  exact List.mem_append_right v hrest

/-! ## Pieces one by one -/

theorem Paired.nil : Paired [] where
  queries := nofun
  literals := nofun
  apart before _ _ _ h := by cases before <;> cases h
  bars before _ _ h := by cases before <;> cases h

/-- What the first piece must be like for the bars to pair up. -/
def PairedWith : Span → List Span → Prop
  | .placeholder e, _ => '|' ∉ e.toList ∧ '\n' ∉ e.toList
  | .literal s, spans =>
    s ≠ "" ∧ (∀ t after, spans ≠ .literal t :: after) ∧ BarsLast s.toList (chars spans)

/-- The bars pair up if they do so from the second piece on and the first piece goes with it. -/
theorem paired_cons_iff {span : Span} :
    Paired (span :: spans) ↔ PairedWith span spans ∧ Paired spans := by
  constructor
  · intro h
    refine ⟨?_, ?_, ?_, ?_, ?_⟩
    · cases span with
      | placeholder e => exact h.queries e List.mem_cons_self
      | literal s =>
        refine ⟨h.literals s List.mem_cons_self, ?_, h.bars [] s spans rfl⟩
        rintro t after rfl
        exact h.apart [] s t after rfl
    · exact fun e he => h.queries e (List.mem_cons_of_mem _ he)
    · exact fun s hs => h.literals s (List.mem_cons_of_mem _ hs)
    · rintro before s t after rfl
      exact h.apart (span :: before) s t after rfl
    · rintro before s after rfl
      exact h.bars (span :: before) s after rfl
  · rintro ⟨hspan, h⟩
    refine ⟨?_, ?_, ?_, ?_⟩
    · intro e he
      obtain rfl | he := List.mem_cons.mp he
      · exact hspan
      · exact h.queries e he
    · intro s hs
      obtain rfl | hs := List.mem_cons.mp hs
      · exact hspan.1
      · exact h.literals s hs
    · intro before s t after hspans
      cases before with
      | nil =>
        obtain ⟨rfl, rfl⟩ := List.cons.inj hspans
        exact hspan.2.1 t after rfl
      | cons _ before => exact h.apart before s t after (List.cons.inj hspans).2
    · intro before s after hspans
      cases before with
      | nil =>
        obtain ⟨rfl, rfl⟩ := List.cons.inj hspans
        exact hspan.2.2
      | cons _ before => exact h.bars before s after (List.cons.inj hspans).2

/-! ## Scanning -/

/-- An expression ends at the first bar of its line. -/
theorem expression?_append {e : List Char} (hbar : '|' ∉ e) (hline : '\n' ∉ e) (rest : List Char) :
    expression? (e ++ '|' :: rest) = some e := by
  induction e with
  | nil => rfl
  | cons c e ih =>
    rw [List.mem_cons, not_or] at hbar hline
    rw [List.cons_append, expression?, if_neg (Ne.symm hbar.1), if_neg (Ne.symm hline.1),
      ih hbar.2 hline.2]
    rfl

/-- An expression is followed by a bar, and has no bar and no line end in itself. -/
theorem eq_append_of_expression? {e : List Char} (h : expression? cs = some e) :
    ∃ rest, cs = e ++ '|' :: rest ∧ '|' ∉ e ∧ '\n' ∉ e := by
  induction cs generalizing e with
  | nil => cases h
  | cons c cs ih =>
    rw [expression?] at h
    split at h
    case isTrue hc =>
      cases h
      exact ⟨cs, by rw [hc]; rfl, List.not_mem_nil, List.not_mem_nil⟩
    case isFalse hc =>
      split at h
      case isTrue => cases h
      case isFalse hend =>
        obtain ⟨e, he, rfl⟩ := Option.map_eq_some_iff.mp h
        obtain ⟨rest, rfl, hbar, hline⟩ := ih he
        exact ⟨rest, rfl, by simp [hbar, Ne.symm hc], by simp [hline, Ne.symm hend]⟩

/-- There is no expression exactly if no bar is left on the line. -/
theorem expression?_eq_none_iff : expression? cs = none ↔ '|' ∉ restOfLine cs := by
  induction cs with
  | nil => exact ⟨fun _ => List.not_mem_nil, fun _ => rfl⟩
  | cons c cs ih =>
    rw [expression?]
    by_cases hc : c = '|'
    · rw [if_pos hc, hc]
      exact ⟨nofun, fun h => absurd (bar_mem_restOfLine cs) h⟩
    rw [if_neg hc]
    by_cases hend : c = '\n'
    · rw [if_pos hend, hend]
      exact ⟨fun _ => List.not_mem_nil, fun _ => rfl⟩
    · have hline : restOfLine (c :: cs) = c :: restOfLine cs :=
        @restOfLine_append [c] (by simpa using Ne.symm hend) cs
      rw [if_neg hend, Option.map_eq_none_iff, ih, hline, List.mem_cons, not_or]
      exact ⟨fun h => ⟨Ne.symm hc, h⟩, And.right⟩

/-- Behind an expression and its bar. -/
theorem drop_expression (e rest : List Char) : (e ++ '|' :: rest).drop (e.length + 1) = rest := by
  rw [List.append_cons, List.drop_left' (by simp)]

/-- Characters that belong to the piece before are passed over. -/
theorem scanFrom_eq_drop (skip : Nat) (reversed cs : List Char) :
    scanFrom skip reversed cs = scanFrom 0 reversed (cs.drop skip) := by
  induction cs generalizing skip with
  | nil => cases skip <;> rfl
  | cons c cs ih =>
    cases skip with
    | zero => rfl
    | succ skip => exact ih skip

/-- Two bars on one line, with no bar between them, enclose a placeholder. -/
theorem scanFrom_placeholder {e : List Char} (hbar : '|' ∉ e) (hline : '\n' ∉ e)
    (reversed rest : List Char) :
    scanFrom 0 reversed ('|' :: (e ++ '|' :: rest)) =
      literal reversed ++ .placeholder (String.ofList e) :: scanFrom 0 [] rest := by
  rw [scanFrom, if_pos rfl, expression?_append hbar hline]
  dsimp only
  rw [scanFrom_eq_drop, drop_expression]

/-- Characters go to the literal as long as each bar among them is the last one of its line. -/
theorem scanFrom_append (h : BarsLast cs rest) (reversed : List Char) :
    scanFrom 0 reversed (cs ++ rest) = scanFrom 0 (cs.reverse ++ reversed) rest := by
  induction cs generalizing reversed with
  | nil => rfl
  | cons c cs ih =>
    obtain ⟨hc, hcs⟩ := barsLast_cons_iff.mp h
    have hstep :
        scanFrom 0 reversed (c :: (cs ++ rest)) = scanFrom 0 (c :: reversed) (cs ++ rest) := by
      rw [scanFrom]
      split
      case isTrue hbar => rw [expression?_eq_none_iff.mpr (hc hbar)]
      case isFalse => rfl
    rw [List.cons_append, hstep, ih hcs, List.reverse_cons, List.append_assoc]
    rfl

theorem literal_of_ne_nil (h : cs ≠ []) : literal cs.reverse = [.literal (String.ofList cs)] := by
  rw [literal, if_neg (by simpa using h), List.reverse_reverse]

/-- **One reading**: pieces in which the bars pair up are what their characters are read as. -/
theorem scanFrom_chars (h : Paired spans) : scanFrom 0 [] (chars spans) = spans := by
  induction spans with
  | nil => rfl
  | cons span spans ih =>
    obtain ⟨hspan, hspans⟩ := paired_cons_iff.mp h
    cases span with
    | placeholder e =>
      rw [chars_placeholder, scanFrom_placeholder hspan.1 hspan.2, ih hspans, String.ofList_toList]
      rfl
    | literal s =>
      obtain ⟨hs, hapart, hbars⟩ := hspan
      have hs : s.toList ≠ [] := by simpa using hs
      rw [chars_literal, scanFrom_append hbars, List.append_nil]
      -- The literal ends with the template or at a placeholder.
      cases spans with
      | nil => rw [chars_nil, scanFrom, literal_of_ne_nil hs, String.ofList_toList]
      | cons next spans =>
        cases next with
        | literal t => exact absurd rfl (hapart t spans)
        | placeholder e =>
          obtain ⟨hbar, hline⟩ := (paired_cons_iff.mp hspans).1
          have hrest := ih hspans
          rw [chars_placeholder, scanFrom_placeholder hbar hline] at hrest ⊢
          rw [literal_of_ne_nil hs, String.ofList_toList, List.singleton_append]
          exact congrArg _ hrest

/-- A literal before other pieces, unless it is empty. -/
theorem paired_literal_append (h : BarsLast reversed.reverse (chars spans))
    (hapart : ∀ t after, spans ≠ .literal t :: after) (hspans : Paired spans) :
    chars (literal reversed ++ spans) = reversed.reverse ++ chars spans ∧
      Paired (literal reversed ++ spans) := by
  by_cases hnil : reversed = []
  · subst hnil
    exact ⟨rfl, hspans⟩
  · have hne : reversed.reverse ≠ [] := by simpa using hnil
    rw [← reversed.reverse_reverse, literal_of_ne_nil hne, List.reverse_reverse]
    refine ⟨by simp, paired_cons_iff.mpr ⟨⟨?_, hapart, ?_⟩, hspans⟩⟩
    · simpa using hnil
    · rwa [String.toList_ofList]

/-- **A reading**: what is read holds all characters, and the bars in it pair up. -/
theorem paired_scanFrom (skip : Nat) (reversed cs : List Char)
    (h : BarsLast reversed.reverse (cs.drop skip)) :
    chars (scanFrom skip reversed cs) = reversed.reverse ++ cs.drop skip ∧
      Paired (scanFrom skip reversed cs) := by
  fun_induction scanFrom skip reversed cs with
  | case1 skip reversed =>
    rw [List.drop_nil] at h ⊢
    have hliteral := @paired_literal_append reversed [] h nofun .nil
    rwa [List.append_nil] at hliteral
  | case2 skip reversed c rest ih => exact ih h
  | case3 reversed rest e he ih =>
    -- The bar opens a placeholder, and the literal before it is complete.
    obtain ⟨rest, rfl, hbar, hline⟩ := eq_append_of_expression? he
    rw [drop_expression] at ih
    obtain ⟨hchars, hpaired⟩ := ih (.nil rest)
    have hspans : chars (.placeholder (String.ofList e) ::
        scanFrom (e.length + 1) [] (e ++ '|' :: rest)) = '|' :: (e ++ '|' :: rest) := by
      rw [chars_placeholder, hchars, String.toList_ofList]
      rfl
    rw [List.drop_zero, ← hspans] at h ⊢
    refine paired_literal_append h nofun (paired_cons_iff.mpr ⟨?_, hpaired⟩)
    exact ⟨by rwa [String.toList_ofList], by rwa [String.toList_ofList]⟩
  | case4 reversed rest he ih =>
    -- No bar is left on the line, so this one is the last of it.
    have hlast : BarsLast ('|' :: reversed).reverse rest :=
      BarsLast.push h fun _ => expression?_eq_none_iff.mp he
    simpa using ih hlast
  | case5 reversed c rest hc ih =>
    have hlast : BarsLast (c :: reversed).reverse rest := BarsLast.push h fun heq => absurd heq hc
    simpa using ih hlast

/-! ## Counting bars -/

/-- If a bar follows on the same line, then no bar of a literal is on that line. -/
theorem even_barsOnLine_append {before : List Char}
    (hbefore : '|' ∈ restOfLine (cs ++ rest) → Even (barsOnLine before)) (h : BarsLast cs rest)
    (hrest : '|' ∈ restOfLine rest) : Even (barsOnLine (before ++ cs)) := by
  by_cases hcs : '\n' ∈ cs
  · obtain ⟨first, last, rfl, hlast⟩ := exists_lastLine hcs
    rw [List.append_cons] at h
    have hbar := (barsLast_append_iff.mp h).2.not_mem hlast hrest
    rw [← List.append_assoc, barsOnLine_of_lineEnd _ hlast, List.count_eq_zero.mpr hbar]
    exact Even.zero
  · have hbar := h.not_mem hcs hrest
    rw [barsOnLine_append _ hcs, List.count_eq_zero.mpr hbar]
    refine hbefore ?_
    rw [restOfLine_append hcs]
    exact List.mem_append_right cs hrest

/-- Bars before a bar of the same line that belongs to the pieces after are in pairs. -/
theorem even_barsOnLine (before : List Span) {after : List Span} (h : Paired (before ++ after))
    (hbar : '|' ∈ restOfLine (chars after)) : Even (barsOnLine (chars before)) := by
  induction before using List.reverseRecOn generalizing after with
  | nil => exact Even.zero
  | append_singleton before span ih =>
    rw [List.append_assoc, List.singleton_append] at h
    have hbefore := ih h
    rw [chars_append]
    cases span with
    | placeholder e =>
      -- Both bars of the placeholder are on one line, and none is between them.
      obtain ⟨hbar, hline⟩ := h.queries e (by simp)
      have hchars : chars [.placeholder e] = '|' :: (e.toList ++ ['|']) := chars_placeholder e []
      have hcount : (chars [.placeholder e]).count '|' = 2 := by
        rw [hchars]
        simp [List.count_eq_zero.mpr hbar]
      have hlines : '\n' ∉ chars [.placeholder e] := by
        rw [hchars]
        simp [hline]
      rw [barsOnLine_append _ hlines, hcount]
      refine (hbefore ?_).add even_two
      rw [chars_placeholder]
      exact bar_mem_restOfLine _
    | literal s =>
      have hbars := h.bars before s after rfl
      rw [chars_literal, chars_nil, List.append_nil]
      exact even_barsOnLine_append hbefore hbars hbar

/-- **Bars pair up**: the pieces of a template are the only list of pieces whose texts make it and
in which every placeholder holds its query between two bars on one line, literals are not empty and
not neighbours, and a bar in a literal is the last one of its line. So on each line the first bar
opens a placeholder that the second one closes, and so on: an even number of bars stands before each
bar that opens a placeholder, and before each that is left over. -/
theorem scan_pairs (template : String) :
    (∀ spans, String.join (spans.map Span.text) = template ∧ Paired spans ↔
      spans = scan template) ∧
    (∀ before e after, scan template = before ++ .placeholder e :: after →
      Even (barsOnLine (chars before))) ∧
    ∀ before s after u v, scan template = before ++ .literal s :: after →
      s.toList = u ++ '|' :: v → Even (barsOnLine (chars before ++ u)) := by
  have hscan : chars (scan template) = template.toList ∧ Paired (scan template) :=
    paired_scanFrom 0 [] template.toList (.nil _)
  refine ⟨?_, ?_, ?_⟩
  · intro spans
    constructor
    · rintro ⟨rfl, h⟩
      rw [join_texts, scan, String.toList_ofList, scanFrom_chars h]
    · rintro rfl
      rw [join_texts, hscan.1, String.ofList_toList]
      exact ⟨rfl, hscan.2⟩
  · intro before e after h
    refine even_barsOnLine before (h ▸ hscan.2) ?_
    rw [chars_placeholder]
    exact bar_mem_restOfLine _
  · intro before s after u v h hs
    have hpaired : Paired (before ++ .literal s :: after) := h ▸ hscan.2
    have hbars := hpaired.bars before s after rfl
    rw [hs, barsLast_append_iff] at hbars
    refine even_barsOnLine_append (fun hline => ?_) hbars.1 (bar_mem_restOfLine _)
    refine even_barsOnLine before hpaired ?_
    rwa [chars_literal, hs, List.append_assoc]

/-- The bars of each line are paired by themselves. -/
example : scan "a||b|\n|c|d" =
    [.literal "a", .placeholder "", .literal "b|\n", .placeholder "c", .literal "d"] := by rfl

end WebhookRelay.Template
