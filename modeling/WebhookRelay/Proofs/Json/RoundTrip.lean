import WebhookRelay.Proofs.Json.Scanning

/-!
# Reading back what has been written

A value without floating-point numbers, whose objects have no key twice and whose integers have not
too many digits, is read back from its text, whatever blanks stand behind the commas and colons. The
reader is followed over a part of the text at a time, and each part is stated for everything that
may stand behind it.

- `Json.Exact`: the values that are read back.
- `Json.State.Leads`: over these characters the reader goes from one state to another.
- `Json.Exact.leads`: over the text of a value it goes to where the value has been accepted.
- `Json.read_writeChars`: the whole text of a value is read as the value.
-/

namespace WebhookRelay.Json

/-- A value without floating-point numbers, repeated keys and integers with too many digits. -/
inductive Exact : Json → Prop
  | null : Exact .null
  | bool (b : Bool) : Exact (.bool b)
  | int {n : Int} (h : Text.isOverlong n = false) : Exact (.int n)
  | string (s : String) : Exact (.string s)
  | array {items : List Json} (h : ∀ v ∈ items, Exact v) : Exact (.array items)
  | object {fields : List (String × Json)} (hkeys : (fields.map Prod.fst).Nodup)
      (h : ∀ f ∈ fields, Exact f.2) : Exact (.object fields)

/-- A comma and a colon, each with blanks behind it. -/
structure Separators.Lawful (sep : Separators) : Prop where
  item : ∃ blanks, sep.item = ',' :: blanks ∧ ∀ c ∈ blanks, isSeparator c = true
  key : ∃ blanks, sep.key = ':' :: blanks ∧ ∀ c ∈ blanks, isSeparator c = true

/-! ## Following the reader -/

namespace State

/-- Over these characters the reader goes from one state to another, whatever stands behind them
that does not go on with a number. -/
def Leads (s : State) (cs : List Char) (s' : State) : Prop :=
  ∀ p rest, Stops rest →
    s.run (scanTokens 0 p (cs ++ rest)) = s'.run (scanTokens 0 (p + cs.length) rest)

variable {s s' s'' : State} {cs ds : List Char} {lexeme : Lexeme}

/-- Over nothing the reader stays where it is. -/
theorem Leads.refl (s : State) : Leads s [] s :=
  fun _ _ _ => rfl

/-- One token is read first. -/
theorem run_cons_of_step {p : Nat} {tokens : List Token} (h : s.step ⟨p, lexeme⟩ = .ok s') :
    s.run (⟨p, lexeme⟩ :: tokens) = s'.run tokens := by
  rw [run, List.foldlM_cons, h]
  rfl

/-- Characters that are one token lead where the token does. -/
theorem Leads.token (hstep : ∀ p, s.step ⟨p, lexeme⟩ = .ok s')
    (hscan : ∀ p rest, Stops rest →
      scanTokens 0 p (cs ++ rest) = ⟨p, lexeme⟩ :: scanTokens 0 (p + cs.length) rest) :
    Leads s cs s' := by
  intro p rest hrest
  rw [hscan p rest hrest, run_cons_of_step (hstep p)]

/-- One part of a text is read after another, if the second does not go on with a number. -/
theorem Leads.append (h : Leads s cs s') (h' : Leads s' ds s'') (hstops : Stops ds) :
    Leads s (cs ++ ds) s'' := by
  intro p rest hrest
  have hbehind : Stops (ds ++ rest) := by
    cases ds with
    | nil => exact hrest
    | cons d ds => exact hstops
  rw [List.append_assoc, h p _ hbehind, h' _ rest hrest, List.length_append, Nat.add_assoc]

/-- A string is read before the rest, whatever that starts with. -/
theorem Leads.writeString_append {t : String} (hstep : ∀ p, s.step ⟨p, .text t⟩ = .ok s')
    (h : Leads s' cs s'') : Leads s (writeString t ++ cs) s'' := by
  intro p rest hrest
  rw [List.append_assoc, scanTokens_writeString, run_cons_of_step (hstep p), h _ rest hrest,
    List.length_append, Nat.add_assoc]

/-- A delimiter is read before the rest. -/
theorem Leads.cons {c : Char} (hblank : isSeparator c = false)
    (hlexeme : ∀ p rest, scanLexeme p c rest = (lexeme, 0))
    (hstep : ∀ p, s.step ⟨p, lexeme⟩ = .ok s') (h : Leads s' cs s'') : Leads s (c :: cs) s'' := by
  intro p rest hrest
  rw [List.cons_append, scanTokens, hblank, if_neg Bool.false_ne_true, hlexeme]
  dsimp only
  rw [run_cons_of_step (hstep p), h _ rest hrest, List.length_cons, Nat.add_assoc, Nat.add_comm 1]

/-- Blanks are passed over before the rest. -/
theorem Leads.blanks_append {blanks : List Char} (hblanks : ∀ c ∈ blanks, isSeparator c = true)
    (h : Leads s cs s') : Leads s (blanks ++ cs) s' := by
  intro p rest hrest
  rw [List.append_assoc, scanTokens_separators p hblanks, h _ rest hrest, List.length_append,
    Nat.add_assoc]

end State

open State

variable {sep : Separators}

/-! ## Values -/

/-- What starts with a delimiter does not go on with a number. -/
theorem stops_cons {c : Char} (hc : c ∈ delimiters) (cs : List Char) : Stops (c :: cs) := by
  have hall : ∀ c ∈ delimiters, c.isDigit = false ∧ c ≠ '.' ∧ c ≠ 'e' ∧ c ≠ 'E' := by
    simp [delimiters]
  intro d hd
  obtain rfl : c = d := Option.some.inj hd
  exact hall c hc

/-- A comma and the blanks behind it are read before the rest. -/
theorem Separators.Lawful.leads_item (hsep : sep.Lawful) {s s' s'' : State} {cs : List Char}
    (hstep : ∀ p, s.step ⟨p, .comma⟩ = .ok s') (h : Leads s' cs s'') :
    Leads s (sep.item ++ cs) s'' := by
  obtain ⟨blanks, hitem, hblanks⟩ := hsep.item
  rw [hitem, List.cons_append]
  exact Leads.cons rfl (fun _ _ => rfl) hstep (.blanks_append hblanks h)

/-- A colon and the blanks behind it are read before the rest. -/
theorem Separators.Lawful.leads_key (hsep : sep.Lawful) {s s' s'' : State} {cs : List Char}
    (hstep : ∀ p, s.step ⟨p, .colon⟩ = .ok s') (h : Leads s' cs s'') :
    Leads s (sep.key ++ cs) s'' := by
  obtain ⟨blanks, hkey, hblanks⟩ := hsep.key
  rw [hkey, List.cons_append]
  exact Leads.cons rfl (fun _ _ => rfl) hstep (.blanks_append hblanks h)

/-- A number ends before a comma. -/
theorem Separators.Lawful.stops_item (hsep : sep.Lawful) (cs : List Char) :
    Stops (sep.item ++ cs) := by
  obtain ⟨blanks, hitem, _⟩ := hsep.item
  rw [hitem]
  exact stops_cons (by decide) _

/-- Over the text of a value the reader goes to where the value has been accepted. -/
def Accepted (sep : Separators) (v : Json) : Prop :=
  ∀ closable stack, Leads (.value closable stack) (writeChars sep v) (accept v stack)

/-- A scalar that is one token is accepted. -/
theorem Accepted.scalar {v : Json}
    (hscan : ∀ p rest, Stops rest → scanTokens 0 p (writeChars sep v ++ rest) =
      ⟨p, .scalar v⟩ :: scanTokens 0 (p + (writeChars sep v).length) rest) : Accepted sep v :=
  fun _ _ => Leads.token (fun _ => rfl) hscan

/-- The items of an array are read in their order, and the last of them comes to stand first. -/
theorem leads_writeItems (hsep : sep.Lawful) {items : List Json} (hne : items ≠ [])
    (h : ∀ v ∈ items, Accepted sep v) (closable : Bool) (before : List Json)
    (stack : List Frame) :
    Leads (.value closable (.array before :: stack)) (writeItems sep items)
      (.item (items.reverse ++ before) stack) := by
  -- An item that has been read goes from the items to those before.
  induction items generalizing closable before with
  | nil => exact absurd rfl hne
  | cons v rest ih =>
    have hv := h v List.mem_cons_self closable (.array before :: stack)
    cases rest with
    | nil => exact hv
    | cons w rest =>
      have hothers : ∀ u ∈ w :: rest, Accepted sep u := fun u hu => h u (List.mem_cons_of_mem v hu)
      have hrest := ih (List.cons_ne_nil w rest) hothers false (v :: before)
      have hall := hv.append (hsep.leads_item (fun _ => rfl) hrest) (hsep.stops_item _)
      rw [writeItems, List.append_assoc, List.reverse_cons, List.append_assoc]
      exact hall

/-- The members of an object are read in their order, if no key comes twice. -/
theorem leads_writeFields (hsep : sep.Lawful) {fields : List (String × Json)} (hne : fields ≠ [])
    (h : ∀ f ∈ fields, Accepted sep f.2) (closable : Bool) (before : List (String × Json))
    (hkeys : ((before ++ fields).map Prod.fst).Nodup) (stack : List Frame) :
    Leads (.key closable before stack) (writeFields sep fields)
      (.member (before ++ fields) stack) := by
  induction fields generalizing closable before with
  | nil => exact absurd rfl hne
  | cons f rest ih =>
    obtain ⟨k, v⟩ := f
    -- The key is new, so its member is put behind those before.
    have hnew : k ∉ before.map Prod.fst := by
      rw [List.map_append, List.map_cons] at hkeys
      exact fun hmem => (List.nodup_append.mp hkeys).2.2 k hmem k List.mem_cons_self rfl
    have hfirst : Leads (.key closable before stack)
        (writeString k ++ sep.key ++ writeChars sep v) (.member (before ++ [(k, v)]) stack) := by
      have hv := h (k, v) List.mem_cons_self false (.object before k :: stack)
      rw [accept, Dictionary.put_of_not_mem v hnew] at hv
      rw [List.append_assoc]
      exact .writeString_append (fun _ => rfl) (hsep.leads_key (fun _ => rfl) hv)
    cases rest with
    | nil => exact hfirst
    | cons g rest =>
      have hothers : ∀ u ∈ g :: rest, Accepted sep u.2 :=
        fun u hu => h u (List.mem_cons_of_mem _ hu)
      rw [← List.singleton_append, ← List.append_assoc] at hkeys
      have hrest := ih (List.cons_ne_nil g rest) hothers false (before ++ [(k, v)]) hkeys
      have hall := hfirst.append (hsep.leads_item (fun _ => rfl) hrest) (hsep.stops_item _)
      rw [List.append_assoc before, List.singleton_append] at hall
      rw [writeFields, List.append_assoc (writeString k ++ sep.key ++ writeChars sep v)]
      exact hall

/-- Every exact value is accepted from its text. -/
theorem Exact.accepted (hsep : sep.Lawful) {v : Json} (h : Exact v) : Accepted sep v := by
  induction h with
  | null => exact .scalar fun p rest _ => scanTokens_constant p (.head _) rest
  | bool b =>
    cases b with
    | true => exact .scalar fun p rest _ => scanTokens_constant p (.tail _ (.head _)) rest
    | false =>
      exact .scalar fun p rest _ => scanTokens_constant p (.tail _ (.tail _ (.head _))) rest
  | int hshort => exact .scalar fun p rest hrest => scanTokens_showInteger p hshort hrest
  | string s =>
    exact fun _ _ => Leads.token (fun _ => rfl) fun p rest _ => scanTokens_writeString p s rest
  | @array items h ih =>
    intro closable stack
    refine Leads.cons rfl (fun _ _ => rfl) (fun _ => rfl) ?_
    by_cases hne : items = []
    · subst hne
      exact Leads.cons rfl (fun _ _ => rfl) (fun _ => rfl) (.refl _)
    · have hitems := leads_writeItems hsep hne ih true [] stack
      have hlast : ∀ p, (State.item (items.reverse ++ []) stack).step ⟨p, .closeArray⟩ =
          .ok (accept (.array (items.reverse ++ []).reverse) stack) := fun _ => rfl
      rw [List.append_nil, List.reverse_reverse] at hlast
      rw [List.append_nil] at hitems
      have hclose := Leads.cons (c := ']') rfl (fun _ _ => rfl) hlast (.refl _)
      exact hitems.append hclose (stops_cons (by decide) _)
  | @object fields hkeys h ih =>
    intro closable stack
    refine Leads.cons rfl (fun _ _ => rfl) (fun _ => rfl) ?_
    by_cases hne : fields = []
    · subst hne
      exact Leads.cons rfl (fun _ _ => rfl) (fun _ => rfl) (.refl _)
    · have hfields := leads_writeFields hsep hne ih true [] hkeys stack
      have hclose : Leads (.member fields stack) ['\x7d'] (accept (.object fields) stack) :=
        Leads.cons rfl (fun _ _ => rfl) (fun _ => rfl) (.refl _)
      exact hfields.append hclose (stops_cons (by decide) _)

/-! ## Texts -/

/-- No exact value is written with a byte order mark at its start. -/
theorem Exact.head_ne_mark {v : Json} (h : Exact v) (rest : List Char) :
    writeChars sep v ≠ '\uFEFF' :: rest := by
  cases h with
  | null => exact fun heq => absurd (List.cons.inj heq).1 (by decide)
  | bool b => cases b <;> exact fun heq => absurd (List.cons.inj heq).1 (by decide)
  | @int n _ =>
    obtain ⟨c, cs, hcons, hne⟩ := exists_showInteger_eq_cons n
    rw [writeChars, hcons]
    exact fun heq => hne '\uFEFF' (by decide) (by decide) (List.cons.inj heq).1
  | string s => exact fun heq => absurd (List.cons.inj heq).1 (by decide)
  | array h => exact fun heq => absurd (List.cons.inj heq).1 (by decide)
  | object hkeys h => exact fun heq => absurd (List.cons.inj heq).1 (by decide)

/-- An exact value is read back from its characters. -/
theorem readChars_writeChars (hsep : sep.Lawful) {v : Json} (h : Exact v) :
    readChars (writeChars sep v) = .ok v := by
  have hrun := h.accepted hsep false [] 0 [] (fun _ hc => by cases hc)
  rw [List.append_nil] at hrun
  rw [readChars, hrun]
  · rfl
  · exact fun rest heq => h.head_ne_mark rest heq

/-- An exact value is read back from its text. -/
theorem read_writeChars (hsep : sep.Lawful) {v : Json} (h : Exact v) :
    read (String.ofList (writeChars sep v)) = .ok v := by
  rw [read, String.toList_ofList, readChars_writeChars hsep h]
  rfl

/-- An exact value is read back from its text with spaces. -/
theorem read_spaced {v : Json} (h : Exact v) : read (spaced v) = .ok v := by
  refine read_writeChars ⟨⟨[' '], rfl, ?_⟩, ⟨[' '], rfl, ?_⟩⟩ h
  · simp [isSeparator]
  · simp [isSeparator]

end WebhookRelay.Json
