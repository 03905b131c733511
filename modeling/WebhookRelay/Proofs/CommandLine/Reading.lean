import Mathlib.Data.List.TakeWhile
import WebhookRelay.CommandLine

/-!
# What command lines say

A command line is read exactly if it is put together from flags and their values: each flag is
spelled out, or shortened so that no other one begins like it, and its value follows it or is
attached by an equals sign. Everything else ends the program: a flag for help, a value that is
missing or no number, a shortened flag that may mean several ones, and whatever is neither a flag
nor its value.

- `CommandLine.Names`: an argument names a flag.
- `CommandLine.IsValue`: an argument is a value.
- `CommandLine.Spells`: a command line gives flags these values.
- `CommandLine.read_eq_ok_iff`: what is read from a command line is what it spells.
-/

namespace WebhookRelay.CommandLine

/-! ## Flags and values -/

/-- An argument names a flag: it begins with two dashes, and of all flags that one alone begins like
it. -/
def Names (name : List Char) (flag : Flag) : Prop :=
  ['-', '-'] <+: name ∧
    ∃ full, (spellings.filter fun s => name.isPrefixOf s.1.toList) = [(full, flag)]

/-- An argument begins like a flag, as far as it goes before an equals sign. -/
def BeginsFlag (cs : List Char) : Prop :=
  ['-', 'h'] <+: cs ∨
    ['-', '-'] <+: cs ∧ ∃ s ∈ spellings, (cs.takeWhile (· != '=')) <+: s.1.toList

/-- An argument is a value: it does not begin with a dash, or is nothing but a dash, or does not
begin like a flag and is a negative number or has a space. -/
def IsValue (cs : List Char) : Prop :=
  ¬ ['-'] <+: cs ∨ cs = ['-'] ∨
    ¬ BeginsFlag cs ∧ (isNegativeNumber cs = true ∨ ' ' ∈ cs)

variable {text : String} {cs name : List Char} {flag : Flag} {attached : Attached}

/-! ### What is attached -/

theorem fst_cutAtEquals (cs : List Char) : (cutAtEquals cs).1 = cs.takeWhile (· != '=') := by
  unfold cutAtEquals
  split
  · rename_i h
    rw [List.dropWhile_eq_nil_iff] at h
    exact (List.takeWhile_eq_self_iff.mpr h).symm
  · rfl

theorem cutAtEquals_of_not_mem (h : '=' ∉ cs) : cutAtEquals cs = (cs, .nothing) := by
  have hall : ∀ c ∈ cs, (c != '=') = true := fun c hc => bne_iff_ne.mpr fun he => h (he ▸ hc)
  rw [cutAtEquals, List.dropWhile_eq_nil_iff.mpr hall]

theorem cutAtEquals_append (h : '=' ∉ name) (value : List Char) :
    cutAtEquals (name ++ '=' :: value) = (name, .value (String.ofList value)) := by
  have hall : ∀ c ∈ name, (c != '=') = true := fun c hc => bne_iff_ne.mpr fun he => h (he ▸ hc)
  rw [cutAtEquals, List.dropWhile_append_of_pos hall, List.takeWhile_append_of_pos hall]
  simp

/-- Either nothing is attached by an equals sign, or a value is. -/
theorem cutAtEquals_cases (cs : List Char) :
    '=' ∉ cs ∧ cutAtEquals cs = (cs, .nothing) ∨
      ∃ name value, '=' ∉ name ∧ cs = name ++ '=' :: value ∧
        cutAtEquals cs = (name, .value (String.ofList value)) := by
  by_cases h : '=' ∈ cs
  · obtain ⟨name, value, rfl, hname⟩ := List.eq_append_cons_of_mem h
    exact .inr ⟨name, value, hname, rfl, cutAtEquals_append hname value⟩
  · exact .inl ⟨h, cutAtEquals_of_not_mem h⟩

/-! ### What an argument is -/

theorem not_mem_of_mem_spellings (h : (text, flag) ∈ spellings) : '=' ∉ text.toList := by
  have hplain : ∀ s ∈ spellings, '=' ∉ s.1.toList := by decide +kernel
  exact hplain _ h

/-- A flag that is spelled out after two dashes is the only one that begins like it. -/
theorem names_of_mem_spellings (h : (text, flag) ∈ spellings)
    (hdashes : ['-', '-'] <+: text.toList) :
    (spellings.filter fun s => text.toList.isPrefixOf s.1.toList) = [(text, flag)] := by
  simp only [spellings, List.mem_cons, Prod.mk.injEq, List.not_mem_nil, or_false] at h
  obtain ⟨rfl, rfl⟩ | ⟨rfl, rfl⟩ | ⟨rfl, rfl⟩ | ⟨rfl, rfl⟩ | ⟨rfl, rfl⟩ := h
  · simp at hdashes
  all_goals rfl

/-- No equals sign is among the two dashes. -/
theorem dashes_of_append {value : List Char} (h : ['-', '-'] <+: name ++ '=' :: value) :
    ['-', '-'] <+: name := by
  obtain _ | ⟨d, _ | ⟨c, rest⟩⟩ := name
  · simp at h
  · simp at h
  · simpa using h

/-- An argument that is not spelled like a flag, but begins with a dash, has to be looked into. -/
theorem roleOf_eq_roleOfDashed {c : Char} (h : spellings.lookup text = none)
    (hcs : text.toList = '-' :: c :: cs) : roleOf text = roleOfDashed text := by
  rw [roleOf, h]
  dsimp only
  rw [hcs]
  rfl

theorem candidates_of_dashes (h : ['-', '-'] <+: cs) :
    candidates cs = (spellings.filter fun s => (cutAtEquals cs).1.isPrefixOf s.1.toList).map
      fun s => (s.1, .flag s.2 (cutAtEquals cs).2) := by
  obtain ⟨rest, rfl⟩ := h
  rfl

/-- After two dashes an argument means the flag that alone begins like it. -/
theorem roleOf_of_dashes (h : ['-', '-'] <+: text.toList) :
    roleOf text =
      match spellings.filter fun s => (cutAtEquals text.toList).1.isPrefixOf s.1.toList with
      | [] =>
        .ok (if isNegativeNumber text.toList || text.toList.contains ' ' then .value else .stray)
      | [s] => .ok (.flag s.2 (cutAtEquals text.toList).2)
      | several => .error (.ambiguous text (several.map Prod.fst)) := by
  cases hspelled : spellings.lookup text with
  | some flag =>
    have hmem := Dictionary.mem_of_lookup hspelled
    rw [roleOf, hspelled, cutAtEquals_of_not_mem (not_mem_of_mem_spellings hmem),
      names_of_mem_spellings hmem h]
  | none =>
    have ⟨rest, hrest⟩ := h
    rw [roleOf_eq_roleOfDashed hspelled hrest.symm, roleOfDashed]
    dsimp only
    rw [candidates_of_dashes h]
    cases hexact : spellings.lookup (String.ofList (cutAtEquals text.toList).1) with
    | none =>
      generalize spellings.filter _ = found
      obtain _ | ⟨s, _ | ⟨s', found⟩⟩ := found
      · cases (cutAtEquals text.toList).2 <;> rfl
      · cases (cutAtEquals text.toList).2 <;> rfl
      · cases (cutAtEquals text.toList).2 <;> simp
    | some flag =>
      -- What stands before the equals sign is spelled out, so no other flag begins like it.
      have hmem := Dictionary.mem_of_lookup hexact
      obtain ⟨-, heq⟩ | ⟨name, value, -, htext, heq⟩ := cutAtEquals_cases text.toList
      · rw [heq, String.ofList_toList, hspelled] at hexact
        cases hexact
      · rw [heq] at hmem ⊢
        rw [htext] at h
        have halone := names_of_mem_spellings hmem
          (by rw [String.toList_ofList]; exact dashes_of_append h)
        rw [String.toList_ofList] at halone
        rw [halone]

/-- Whatever of an argument with one dash is spelled out as a flag, it is the one for help. -/
theorem help_of_dash {c : Char} {start : List Char} (hstart : start <+: '-' :: c :: cs)
    (hc : c ≠ '-') (h : spellings.lookup (String.ofList start) = some flag) :
    c = 'h' ∧ flag = .help := by
  have hmem := Dictionary.mem_of_lookup h
  rw [← String.toList_ofList (l := start)] at hstart
  simp only [spellings, List.mem_cons, Prod.mk.injEq, List.not_mem_nil, or_false] at hmem
  obtain ⟨hspell, rfl⟩ | ⟨hspell, -⟩ | ⟨hspell, -⟩ | ⟨hspell, -⟩ | ⟨hspell, -⟩ := hmem
  all_goals
    rw [hspell] at hstart
    obtain ⟨rest, hrest⟩ := hstart
    have hsecond := (List.cons.inj (List.cons.inj hrest).2).1
  · exact ⟨hsecond.symm, rfl⟩
  all_goals exact absurd hsecond.symm hc

theorem candidates_of_dash {c : Char} (hc : c ≠ '-') :
    candidates ('-' :: c :: cs) =
      if c = 'h' then [("-h", .flag .help (.letters (String.ofList cs)))] else [] := by
  have hcandidates : candidates ('-' :: c :: cs) =
      (spellings.filter fun s => s.1.toList = ['-', c]).map
        fun s => (s.1, .flag s.2 (.letters (String.ofList cs))) := by
    unfold candidates
    split
    · rename_i heq
      exact absurd (List.cons.inj (List.cons.inj heq).2).1 hc
    · rfl
  rw [hcandidates]
  by_cases h : c = 'h'
  · subst h
    rfl
  · rw [if_neg h]
    simp [spellings, Ne.symm h, hc.symm]

/-- After one dash an argument means help, or no flag at all. -/
theorem roleOf_of_dash {c : Char} (hcs : text.toList = '-' :: c :: cs) (hc : c ≠ '-') :
    (c = 'h' ∧ ∃ attached, roleOf text = .ok (.flag .help attached)) ∨
      (c ≠ 'h' ∧ roleOf text = .ok (if isNegativeNumber text.toList || text.toList.contains ' '
        then .value else .stray)) := by
  cases hspelled : spellings.lookup text with
  | some flag =>
    rw [← String.ofList_toList (s := text)] at hspelled
    obtain ⟨rfl, rfl⟩ := help_of_dash ⟨[], by rw [List.append_nil, hcs]⟩ hc hspelled
    rw [String.ofList_toList] at hspelled
    refine .inl ⟨rfl, .nothing, ?_⟩
    rw [roleOf, hspelled]
  | none =>
    have hstart : (cutAtEquals text.toList).1 <+: '-' :: c :: cs := by
      rw [fst_cutAtEquals, ← hcs]
      exact List.takeWhile_prefix _
    rw [roleOf_eq_roleOfDashed hspelled hcs, roleOfDashed]
    dsimp only
    rw [hcs, candidates_of_dash hc, ← hcs]
    cases hexact : spellings.lookup (String.ofList (cutAtEquals text.toList).1) with
    | some flag =>
      obtain ⟨rfl, rfl⟩ := help_of_dash hstart hc hexact
      refine .inl ⟨rfl, ?_⟩
      cases (cutAtEquals text.toList).2 with
      | nothing | letters => exact ⟨_, rfl⟩
      | value v => exact ⟨.value v, rfl⟩
    | none =>
      by_cases h : c = 'h'
      · refine .inl ⟨h, .letters (String.ofList cs), ?_⟩
        rw [if_pos h]
        cases (cutAtEquals text.toList).2 <;> rfl
      · refine .inr ⟨h, ?_⟩
        rw [if_neg h]
        cases (cutAtEquals text.toList).2 <;> rfl

/-! ### Names and values -/

/-- No name of a flag has an equals sign. -/
theorem not_mem_of_names (h : Names name flag) : '=' ∉ name := by
  obtain ⟨-, full, hfull⟩ := h
  have hmem : (full, flag) ∈ spellings.filter fun s => name.isPrefixOf s.1.toList := by
    rw [hfull]
    exact List.mem_singleton_self _
  obtain ⟨hspelled, hstarts⟩ := List.mem_filter.mp hmem
  exact fun h => not_mem_of_mem_spellings hspelled
    ((List.isPrefixOf_iff_prefix.mp hstarts).subset h)

/-- An argument does not begin with a dash, or it is nothing but one, or it begins with one dash or
with two. -/
theorem dashes_cases (cs : List Char) :
    (¬ ['-'] <+: cs ∨ cs = ['-']) ∨ (∃ c rest, cs = '-' :: c :: rest ∧ c ≠ '-') ∨
      ['-', '-'] <+: cs := by
  match cs with
  | [] => exact .inl (.inl (by simp))
  | [d] =>
    by_cases hd : d = '-'
    · exact .inl (.inr (by rw [hd]))
    · exact .inl (.inl (by simpa using Ne.symm hd))
  | d :: c :: rest =>
    by_cases hd : d = '-'
    · subst hd
      by_cases hc : c = '-'
      · exact .inr (.inr ⟨rest, by rw [hc]; rfl⟩)
      · exact .inr (.inl ⟨c, rest, rfl, hc⟩)
    · exact .inl (.inl (by simpa using Ne.symm hd))

/-- Without a dash, or with nothing else, an argument is a value. -/
theorem roleOf_of_plain (h : ¬ ['-'] <+: text.toList ∨ text.toList = ['-']) :
    roleOf text = .ok .value := by
  have hspelled : spellings.lookup text = none := by
    cases hlookup : spellings.lookup text with
    | none => rfl
    | some flag =>
      have hdash : ∀ s ∈ spellings, ['-'] <+: s.1.toList ∧ s.1.toList ≠ ['-'] := by decide +kernel
      obtain ⟨hstarts, hne⟩ := hdash _ (Dictionary.mem_of_lookup hlookup)
      exact absurd (h.resolve_left (not_not_intro hstarts)) hne
  rw [roleOf, hspelled]
  dsimp only
  split
  · rename_i hcs
    obtain h | h := h
    · rw [hcs] at h
      simp at h
    · rw [hcs] at h
      simp at h
  · rfl

/-- An argument means another flag than the one for help if it names it, with a value that is
attached or without one. -/
theorem roleOf_eq_flag_iff (hflag : flag ≠ .help) :
    roleOf text = .ok (.flag flag attached) ↔
      (attached = .nothing ∧ Names text.toList flag) ∨
        ∃ name value, attached = .value (String.ofList value) ∧ Names name flag ∧
          text.toList = name ++ '=' :: value := by
  constructor
  · intro h
    obtain hplain | ⟨c, rest, hcs, hc⟩ | hdashes := dashes_cases text.toList
    · rw [roleOf_of_plain hplain] at h
      cases h
    · obtain ⟨-, attached', hrole⟩ | ⟨-, hrole⟩ := roleOf_of_dash hcs hc
      · rw [hrole] at h
        cases h
        exact absurd rfl hflag
      · rw [hrole] at h
        split at h <;> cases h
    · rw [roleOf_of_dashes hdashes] at h
      split at h
      · split at h <;> cases h
      · rename_i s hfilter
        cases h
        obtain ⟨-, heq⟩ | ⟨name, value, hname, htext, heq⟩ := cutAtEquals_cases text.toList
        · rw [heq] at hfilter ⊢
          exact .inl ⟨rfl, hdashes, s.1, hfilter⟩
        · rw [heq] at hfilter ⊢
          rw [htext] at hdashes
          exact .inr ⟨name, value, rfl, ⟨dashes_of_append hdashes, s.1, hfilter⟩, htext⟩
      · cases h
  · rintro (⟨rfl, hnames⟩ | ⟨name, value, rfl, hnames, htext⟩)
    · have hequals := not_mem_of_names hnames
      obtain ⟨hdashes, full, hfull⟩ := hnames
      rw [roleOf_of_dashes hdashes, cutAtEquals_of_not_mem hequals, hfull]
    · have hequals := not_mem_of_names hnames
      obtain ⟨hdashes, full, hfull⟩ := hnames
      have hstarts : ['-', '-'] <+: text.toList := by
        rw [htext]
        exact hdashes.trans (List.prefix_append _ _)
      rw [roleOf_of_dashes hstarts, htext, cutAtEquals_append hequals, hfull]

/-- With one dash an argument begins like a flag exactly if it begins like the one for help. -/
theorem beginsFlag_of_dash {c : Char} (hc : c ≠ '-') : BeginsFlag ('-' :: c :: cs) ↔ c = 'h' := by
  have hone : ¬ (['-', '-'] <+: '-' :: c :: cs) := by simpa using hc.symm
  rw [BeginsFlag, or_iff_left fun h => hone h.1, List.cons_prefix_cons, List.cons_prefix_cons,
    and_iff_right rfl, and_iff_left List.nil_prefix]
  exact eq_comm

/-- With two dashes it does so exactly if there are flags that it can mean. -/
theorem beginsFlag_of_dashes (h : ['-', '-'] <+: cs) :
    BeginsFlag cs ↔ (spellings.filter fun s => (cutAtEquals cs).1.isPrefixOf s.1.toList) ≠ [] := by
  have hhelp : ¬ ['-', 'h'] <+: cs := by
    obtain ⟨rest, rfl⟩ := h
    simp
  rw [BeginsFlag, or_iff_right hhelp, and_iff_right h, fst_cutAtEquals, ne_eq,
    List.filter_eq_nil_iff]
  simp

/-- What is a value can be told from the argument alone. -/
theorem roleOf_eq_value_iff : roleOf text = .ok .value ↔ IsValue text.toList := by
  obtain hplain | ⟨c, rest, hcs, hc⟩ | hdashes := dashes_cases text.toList
  · rw [roleOf_of_plain hplain]
    exact ⟨fun _ => hplain.imp_right .inl, fun _ => rfl⟩
  · have hvalue : IsValue text.toList ↔
        c ≠ 'h' ∧ (isNegativeNumber text.toList = true ∨ ' ' ∈ text.toList) := by
      rw [IsValue, hcs, beginsFlag_of_dash hc]
      simp
    rw [hvalue]
    obtain ⟨rfl, _, hrole⟩ | ⟨hh, hrole⟩ := roleOf_of_dash hcs hc
    · rw [hrole]
      exact ⟨nofun, fun h => absurd rfl h.1⟩
    · rw [hrole, and_iff_right hh]
      split <;> rename_i hif <;> simpa using hif
  · have hvalue : IsValue text.toList ↔
        (spellings.filter fun s => (cutAtEquals text.toList).1.isPrefixOf s.1.toList) = [] ∧
          (isNegativeNumber text.toList = true ∨ ' ' ∈ text.toList) := by
      rw [IsValue, beginsFlag_of_dashes hdashes, not_not]
      obtain ⟨rest, hrest⟩ := hdashes
      rw [← hrest]
      simp
    rw [hvalue, roleOf_of_dashes hdashes]
    split
    · rename_i hfilter
      rw [hfilter]
      split <;> rename_i hif <;> simpa using hif
    · rename_i hfilter
      rw [hfilter]
      simp
    · rename_i hnil _
      exact ⟨nofun, fun h => absurd h.1 hnil⟩

/-! ## Command lines -/

/-- What a flag gives with its value. -/
inductive Given where
  | host (value : String)
  | port (number : Int)
  | logLevel (value : String)
deriving DecidableEq, Repr

namespace Given

/-- What a flag gives with this value, if the value suits it. A port is an integer, and help takes
no value. -/
def ofText? (flag : Flag) (value : String) : Option Given :=
  match flag with
  | .help => none
  | .host => some (.host value)
  | .port => (Text.readInteger? value.toList).map .port
  | .logLevel => some (.logLevel value)

/-- Launch with what is given. -/
def apply (l : Launch) : Given → Launch
  | .host value => { l with host := value }
  | .port number => { l with port := number }
  | .logLevel value => { l with logLevel := value }

end Given

/-- A command line gives flags these values, one after another. -/
inductive Spells : List String → List Given → Prop where
  | nil : Spells [] []
  /-- The value follows its flag. -/
  | apart {name value : String} {flag : Flag} {g : Given} {rest : List String}
    {givens : List Given} (hname : Names name.toList flag) (hvalue : IsValue value.toList)
    (hgiven : Given.ofText? flag value = some g) (hrest : Spells rest givens) :
    Spells (name :: value :: rest) (g :: givens)
  /-- The value is attached to its flag by an equals sign. -/
  | attached {name value : String} {flag : Flag} {g : Given} {rest : List String}
    {givens : List Given} (hname : Names name.toList flag)
    (hgiven : Given.ofText? flag value = some g) (hrest : Spells rest givens) :
    Spells ((name ++ "=" ++ value) :: rest) (g :: givens)

variable {l l' : Launch} {value : String}

/-- A flag is set to a value exactly if the value suits it. -/
theorem set_bind_eq_ok_iff {α : Type} {f : Launch → Except Exit α} {a : α} :
    l.set value flag >>= f = .ok a ↔
      ∃ g, Given.ofText? flag value = some g ∧ f (g.apply l) = .ok a := by
  cases flag with
  | help => exact ⟨nofun, fun ⟨_, h, _⟩ => nomatch h⟩
  | host | logLevel =>
    exact ⟨fun h => ⟨_, rfl, h⟩, fun ⟨_, hg, h⟩ => by cases hg; exact h⟩
  | port =>
    unfold Launch.set Given.ofText?
    dsimp only
    cases Text.readInteger? value.toList with
    | none => exact ⟨nofun, fun ⟨_, h, _⟩ => nomatch h⟩
    | some n => exact ⟨fun h => ⟨_, rfl, h⟩, fun ⟨_, hg, h⟩ => by cases hg; exact h⟩

theorem ne_help_of_ofText? {g : Given} (h : Given.ofText? flag value = some g) : flag ≠ .help := by
  rintro rfl
  cases h

/-- Arguments are classified one by one; only a separator is stray whatever follows. -/
theorem classify_eq_ok {first : String} {rest : List String} {arguments : List Argument}
    (h : classify (first :: rest) = .ok arguments) :
    ∃ role others, arguments = ⟨first, role⟩ :: others ∧
      (role = .stray ∨ roleOf first = .ok role ∧ classify rest = .ok others) := by
  rw [classify] at h
  split at h
  case isTrue hseparator =>
    cases h
    exact ⟨_, _, by rw [hseparator], .inl rfl⟩
  case isFalse =>
    cases hfirst : roleOf first with
    | error e =>
      rw [hfirst] at h
      cases h
    | ok role =>
      cases hrest : classify rest with
      | error e =>
        rw [hfirst, hrest] at h
        cases h
      | ok others =>
        rw [hfirst, hrest] at h
        cases h
        exact ⟨role, others, rfl, .inr ⟨rfl, rfl⟩⟩

theorem eq_nil_of_classify {texts : List String} (h : classify texts = .ok []) : texts = [] := by
  cases texts with
  | nil => rfl
  | cons first rest =>
    obtain ⟨_, _, ⟨⟩, -⟩ := classify_eq_ok h

/-- The first of the classified arguments is the first of the texts. -/
theorem eq_cons_of_classify {texts : List String} {role : Role} {arguments : List Argument}
    (h : classify texts = .ok (⟨text, role⟩ :: arguments)) (hrole : role ≠ .stray) :
    ∃ rest, texts = text :: rest ∧ roleOf text = .ok role ∧ classify rest = .ok arguments := by
  cases texts with
  | nil => cases h
  | cons first rest =>
    obtain ⟨_, _, ⟨⟩, hstray | ⟨hfirst, hrest⟩⟩ := classify_eq_ok h
    · exact absurd hstray hrole
    · exact ⟨rest, rfl, hfirst, hrest⟩

/-- An argument with a role of its own is classified by it. -/
theorem classify_cons_of_role {rest : List String} {role : Role} {others : List Argument}
    (hrole : roleOf text = .ok role) (hrest : classify rest = .ok others) :
    classify (text :: rest) = .ok (⟨text, role⟩ :: others) := by
  have hseparator : text ≠ separator := by
    rintro rfl
    cases hrole
  rw [classify, if_neg hseparator, hrole, hrest]
  rfl

theorem follow_apart (hflag : flag ≠ .help) (text : String) (arguments : List Argument) :
    follow l (⟨text, .flag flag .nothing⟩ :: ⟨value, .value⟩ :: arguments) =
      l.set value flag >>= fun l => follow l arguments :=
  follow.eq_5 l text flag value arguments hflag

theorem follow_attached (hflag : flag ≠ .help) (text : String) (arguments : List Argument) :
    follow l (⟨text, .flag flag (.value value)⟩ :: arguments) =
      l.set value flag >>= fun l => follow l arguments :=
  follow.eq_3 l text flag value arguments hflag

/-- What is followed to the end without anything left over has been spelled. -/
theorem exists_spells_of_follow {arguments : List Argument} {texts : List String}
    (hclassify : classify texts = .ok arguments) (h : follow l arguments = .ok (l', [])) :
    ∃ givens, Spells texts givens ∧ l' = givens.foldl Given.apply l := by
  induction l, arguments using follow.induct generalizing texts with
  | case1 l =>
    obtain rfl := eq_nil_of_classify hclassify
    cases h
    exact ⟨[], .nil, rfl⟩
  | case2 l text attached rest => cases h
  | case3 l text flag v rest hflag ih =>
    obtain ⟨texts, rfl, hrole, hrest⟩ := eq_cons_of_classify hclassify nofun
    obtain ⟨⟨⟩, -⟩ | ⟨name, value, ⟨⟩, hname, htext⟩ := (roleOf_eq_flag_iff hflag).mp hrole
    rw [follow_attached hflag] at h
    obtain ⟨g, hg, h⟩ := set_bind_eq_ok_iff.mp h
    obtain ⟨givens, hgivens, rfl⟩ := ih _ hrest h
    obtain rfl : text = String.ofList name ++ "=" ++ String.ofList value :=
      String.toList_injective (by simp [htext])
    refine ⟨g :: givens, .attached ?_ hg hgivens, rfl⟩
    rwa [String.toList_ofList]
  | case4 l text flag v rest hflag ih =>
    -- Only letters after the one for help are attached to a flag without an equals sign.
    obtain ⟨texts, rfl, hrole, hrest⟩ := eq_cons_of_classify hclassify nofun
    obtain ⟨⟨⟩, -⟩ | ⟨_, _, ⟨⟩, -⟩ := (roleOf_eq_flag_iff hflag).mp hrole
  | case5 l text flag v rest hflag ih =>
    obtain ⟨texts, rfl, hrole, hrest⟩ := eq_cons_of_classify hclassify nofun
    obtain ⟨texts, rfl, hvalue, hrest⟩ := eq_cons_of_classify hrest nofun
    obtain ⟨-, hname⟩ | ⟨_, _, ⟨⟩, -⟩ := (roleOf_eq_flag_iff hflag).mp hrole
    rw [follow_apart hflag] at h
    obtain ⟨g, hg, h⟩ := set_bind_eq_ok_iff.mp h
    obtain ⟨givens, hgivens, rfl⟩ := ih _ hrest h
    exact ⟨g :: givens, .apart hname (roleOf_eq_value_iff.mp hvalue) hg hgivens, rfl⟩
  | case6 l text flag rest hflag hrest =>
    rw [follow.eq_6 _ _ _ _ hflag hrest] at h
    cases h
  | case7 l text role rest hhelp hvalue hletters hapart hmissing ih =>
    -- Any other argument is left over.
    rw [follow.eq_7 _ _ _ _ hhelp hvalue hletters hapart hmissing] at h
    cases hfollow : follow l rest with
    | error e =>
      rw [hfollow] at h
      cases h
    | ok found =>
      rw [hfollow] at h
      cases h

/-- What is spelled can be followed to the end, and nothing is left over. -/
theorem exists_follow_of_spells {texts : List String} {givens : List Given}
    (h : Spells texts givens) (l : Launch) :
    ∃ arguments, classify texts = .ok arguments ∧
      follow l arguments = .ok (givens.foldl Given.apply l, []) := by
  induction h generalizing l with
  | nil => exact ⟨[], rfl, rfl⟩
  | @apart name value flag g rest givens hname hvalue hgiven hrest ih =>
    obtain ⟨arguments, hclassify, hfollow⟩ := ih (g.apply l)
    have hflag := ne_help_of_ofText? hgiven
    refine ⟨_, classify_cons_of_role ((roleOf_eq_flag_iff hflag).mpr (.inl ⟨rfl, hname⟩))
      (classify_cons_of_role (roleOf_eq_value_iff.mpr hvalue) hclassify), ?_⟩
    rw [follow_apart hflag]
    exact set_bind_eq_ok_iff.mpr ⟨g, hgiven, hfollow⟩
  | @attached name value flag g rest givens hname hgiven hrest ih =>
    obtain ⟨arguments, hclassify, hfollow⟩ := ih (g.apply l)
    have hflag := ne_help_of_ofText? hgiven
    have hrole : roleOf (name ++ "=" ++ value) = .ok (.flag flag (.value value)) := by
      refine (roleOf_eq_flag_iff hflag).mpr (.inr ⟨name.toList, value.toList, ?_, hname, ?_⟩)
      · rw [String.ofList_toList]
      · simp
    refine ⟨_, classify_cons_of_role hrole hclassify, ?_⟩
    rw [follow_attached hflag]
    exact set_bind_eq_ok_iff.mpr ⟨g, hgiven, hfollow⟩

/-- **What is read from a command line is what it spells**, and a command line that spells nothing
ends the program. -/
theorem read_eq_ok_iff {arguments : List String} :
    read l arguments = .ok l' ↔
      ∃ givens, Spells arguments givens ∧ l' = givens.foldl Given.apply l := by
  constructor
  · intro h
    unfold read at h
    cases hclassify : classify arguments with
    | error e =>
      rw [hclassify] at h
      cases h
    | ok classified =>
      rw [hclassify] at h
      cases hfollow : follow l classified with
      | error e =>
        replace h : (follow l classified >>= _) = _ := h
        rw [hfollow] at h
        cases h
      | ok found =>
        replace h : (follow l classified >>= _) = _ := h
        rw [hfollow] at h
        obtain ⟨l'', _ | ⟨text, unused⟩⟩ := found
        · cases h
          exact exists_spells_of_follow hclassify hfollow
        · cases h
  · rintro ⟨givens, hspells, rfl⟩
    obtain ⟨classified, hclassify, hfollow⟩ := exists_follow_of_spells hspells l
    unfold read
    rw [hclassify]
    show (follow l classified >>= _) = _
    rw [hfollow]
    rfl

end WebhookRelay.CommandLine
