import WebhookRelay.Proofs.Settings.Loading

/-!
# Event filters in settings

Event filters are taken exactly as they are written, or the settings are refused: a key that is no
event, a member that is neither a predicate nor an action, or a value of another kind is never
ignored. It makes no difference whether they come from the environment or as an argument.

- `Settings.AreFilters`: an object is written as event filters.
- `Settings.Says`: what such an object says about one event.
- `Settings.Supplies`: the two ways in which settings get their event filters.
- `Settings.TakesFilters`: what becomes of them.
-/

namespace WebhookRelay

open Validation

/-! ## One filter -/

section Optional

variable {α : Type} {check : Json → Checked α} {written : α → Json} {v : Json}

/-- Anything but null is checked as a value. -/
theorem Validation.value?_nullable_of_ne (check : Json → Checked α) (hv : v ≠ .null) :
    (nullable check v).value? = (check v).value?.map some := by
  cases v with
  | null => exact absurd rfl hv
  | bool _ | int _ | float _ | string _ | array _ | object _ => exact Checked.value?_map ..

/-- An optional member is accepted if it is absent, null, or written as one of the values that it
may have. -/
theorem Validation.exists_value?_optional_iff
    (hcheck : ∀ v a, (check v).value? = some a ↔ v = written a) (fields : List (String × Json))
    (key : String) :
    (∃ a, (withDefault fields (.plain key) none (nullable check)).value? = some a) ↔
      ∀ v, fields.lookup key = some v → v = .null ∨ ∃ b, v = written b := by
  rw [value?_withDefault, given?_plain]
  cases fields.lookup key with
  | none => exact ⟨fun _ => nofun, fun _ => ⟨none, rfl⟩⟩
  | some v =>
    simp only [Option.elim_some, Option.some.injEq, forall_eq', ← hcheck]
    by_cases hv : v = .null
    · subst hv
      exact ⟨fun _ => .inl rfl, fun _ => ⟨none, rfl⟩⟩
    · rw [value?_nullable_of_ne check hv, or_iff_right hv]
      cases (check v).value? <;> simp

/-- If it is accepted it has the value that it is written as, if any. -/
theorem Validation.eq_some_iff_of_value?_optional
    (hcheck : ∀ v a, (check v).value? = some a ↔ v = written a) (hnull : ∀ a, written a ≠ .null)
    {fields : List (String × Json)} {key : String} {a : Option α}
    (h : (withDefault fields (.plain key) none (nullable check)).value? = some a) (b : α) :
    a = some b ↔ fields.lookup key = some (written b) := by
  rw [value?_withDefault, given?_plain] at h
  cases hlookup : fields.lookup key with
  | none =>
    rw [hlookup] at h
    cases h
    exact ⟨nofun, nofun⟩
  | some v =>
    rw [hlookup, Option.elim_some] at h
    rw [Option.some.injEq]
    by_cases hv : v = .null
    · subst hv
      cases h
      exact ⟨nofun, fun hb => absurd hb.symm (hnull b)⟩
    · rw [value?_nullable_of_ne check hv, Option.map_eq_some_iff] at h
      obtain ⟨c, hc, rfl⟩ := h
      rw [← hcheck, hc]

end Optional

/-- A text is written as it is. -/
theorem Validation.value?_string_eq_some_iff (v : Json) (s : String) :
    (string v).value? = some s ↔ v = .string s := by
  cases v <;> simp [string, Checked.value?, Checked.refuse]

/-- One of a set of names is written as its name. -/
theorem Validation.value?_name_eq_some_iff {α : Type} {ofName? : String → Option α}
    {nameOf : α → String} (h : ∀ {s a}, ofName? s = some a ↔ nameOf a = s) (v : Json) (a : α) :
    (name ofName? v).value? = some a ↔ v = .string (nameOf a) := by
  cases v with
  | string s =>
    have heq : Json.string s = .string (nameOf a) ↔ ofName? s = some a := by
      rw [h, Json.string.injEq, eq_comm]
    rw [heq, name]
    cases ofName? s <;> simp [Checked.value?, Checked.refuse]
  | null | bool _ | int _ | float _ | array _ | object _ =>
    simp [name, Checked.value?, Checked.refuse]

/-- An action is written as its name. -/
theorem value?_action_eq_some_iff (v : Json) (a : Action) :
    (name Action.ofName? v).value? = some a ↔ v = .string a.name :=
  value?_name_eq_some_iff Action.ofName?_eq_some_iff v a

namespace EventFilter

/-- A document is written as the filter of one event: an object with no other members than a
predicate, which is a text or null, and an action, which is one of the two names or null. -/
inductive IsWritten : Json → Prop
  | object {fields : List (String × Json)}
    (keys : ∀ key ∈ fields.map Prod.fst, key = "predicate" ∨ key = "action")
    (predicate : ∀ v, fields.lookup "predicate" = some v → v = .null ∨ ∃ text, v = .string text)
    (action : ∀ v, fields.lookup "action" = some v →
      v = .null ∨ v = .string "relay" ∨ v = .string "drop") : IsWritten (.object fields)

/-- A filter has exactly the predicate and the action that an object gives. -/
structure SaidBy (fields : List (String × Json)) (f : EventFilter) : Prop where
  predicate : ∀ text, f.predicate = some text ↔ fields.lookup "predicate" = some (.string text)
  action : ∀ a, f.action = some a ↔ fields.lookup "action" = some (.string a.name)

/-- What an object gives is read member by member. -/
theorem value?_check_object {fields : List (String × Json)} {f : EventFilter} :
    (check (.object fields)).value? = some f ↔
      (withDefault fields (.plain "predicate") none (nullable string)).value? = some f.predicate ∧
      (withDefault fields (.plain "action") none (nullable (name Action.ofName?))).value? =
        some f.action ∧
      noOthers fields [.plain "predicate", .plain "action"] = .valid () := by
  have hmembers : (check (.object fields)).value? = _ := Checked.value?_seqLeft _ _
  rw [hmembers, Checked.value?_seq, Checked.value?_map]
  generalize (withDefault fields (.plain "predicate") none (nullable string)).value? = predicate,
    (withDefault fields (.plain "action") none (nullable (name Action.ofName?))).value? = action,
    noOthers fields [.plain "predicate", .plain "action"] = others
  obtain ⟨p, a⟩ := f
  cases predicate <;> cases action <;> cases others <;> simp [Checked.value?]

/-- A document is read as a filter exactly if it is written as one. -/
theorem exists_value?_check_iff {v : Json} : (∃ f, (check v).value? = some f) ↔ IsWritten v := by
  have hothers : ∀ fields : List (String × Json),
      noOthers fields [.plain "predicate", .plain "action"] = .valid () ↔
        ∀ key ∈ fields.map Prod.fst, key = "predicate" ∨ key = "action" := by
    intro fields
    have hplain : noOthers fields (["predicate", "action"].map Field.plain) = .valid () ↔ _ :=
      noOthers_plain_iff
    simpa using hplain
  have haction : ∀ v, (∃ a : Action, v = .string a.name) ↔
      v = Json.string "relay" ∨ v = Json.string "drop" := by
    intro v
    constructor
    · rintro ⟨_ | _, rfl⟩
      · exact .inl rfl
      · exact .inr rfl
    · rintro (rfl | rfl)
      · exact ⟨.relay, rfl⟩
      · exact ⟨.drop, rfl⟩
  constructor
  · rintro ⟨f, hf⟩
    cases v with
    | null | bool _ | int _ | float _ | string _ | array _ => cases hf
    | object fields =>
      obtain ⟨hp, ha, hkeys⟩ := value?_check_object.mp hf
      refine .object ((hothers fields).mp hkeys) ?_ fun v hv => ?_
      · exact (exists_value?_optional_iff value?_string_eq_some_iff _ _).mp ⟨_, hp⟩
      · rw [← haction]
        exact (exists_value?_optional_iff value?_action_eq_some_iff _ _).mp ⟨_, ha⟩ v hv
  · rintro ⟨hkeys, hp, ha⟩
    simp only [← haction] at ha
    obtain ⟨p, hp⟩ := (exists_value?_optional_iff value?_string_eq_some_iff _ _).mpr hp
    obtain ⟨a, ha⟩ := (exists_value?_optional_iff value?_action_eq_some_iff _ _).mpr ha
    exact ⟨⟨p, a⟩, value?_check_object.mpr ⟨hp, ha, (hothers _).mpr hkeys⟩⟩

/-- It is read as the filter that it gives. -/
theorem saidBy_of_value?_check {fields : List (String × Json)} {f : EventFilter}
    (h : (check (.object fields)).value? = some f) : SaidBy fields f := by
  obtain ⟨hpredicate, haction, -⟩ := value?_check_object.mp h
  exact {
    predicate := eq_some_iff_of_value?_optional value?_string_eq_some_iff nofun hpredicate
    action := eq_some_iff_of_value?_optional value?_action_eq_some_iff nofun haction }

end EventFilter

/-! ## All filters -/

namespace Settings

variable {fields : List (String × Json)} {filters : Dictionary Event EventFilter}

/-- An object is written as event filters: its keys are names of events, and its values are written
as filters. -/
def AreFilters (fields : List (String × Json)) : Prop :=
  ∀ m ∈ fields, (∃ event : Event, m.1 = event.name) ∧ EventFilter.IsWritten m.2

/-- A filter is what an object of event filters says about one event. -/
structure Says (fields : List (String × Json)) (event : Event) (f : EventFilter) : Prop where
  /-- What is written for the event counts, and nothing else. -/
  present : ∀ v, fields.lookup event.name = some v →
    ∃ members, v = .object members ∧ EventFilter.SaidBy members f
  /-- Where nothing is written for it, it has the empty filter. -/
  absent : fields.lookup event.name = none → f = .empty

/-- An entry is read as an event with its filter. -/
def ReadAs (m : String × Json) (entry : Event × EventFilter) : Prop :=
  m.1 = entry.1.name ∧ (EventFilter.check m.2).value? = some entry.2

/-- Event filters are read entry by entry. -/
theorem value?_checkAll_iff :
    (EventFilter.checkAll (.object fields)).value? = some filters ↔
      List.Forall₂ ReadAs fields filters := by
  show (entries (name Event.ofName?) EventFilter.check fields).value? = some filters ↔ _
  induction fields generalizing filters with
  | nil => rw [List.forall₂_nil_left_iff, entries, Checked.value?, Option.some.injEq, eq_comm]
  | cons m rest ih =>
    obtain ⟨key, v⟩ := m
    have hkey : ∀ event, (name Event.ofName? (.string key)).value? = some event ↔
        key = event.name := fun event => by
      rw [value?_name_eq_some_iff Event.ofName?_eq_some_iff, Json.string.injEq]
    rw [entries, List.forall₂_cons_left_iff]
    simp only [Checked.value?_seq, Checked.value?_map, Checked.value?_within, ← ih, ReadAs, ← hkey]
    cases (name Event.ofName? (.string key)).value? <;> cases (EventFilter.check v).value? <;>
      cases (entries (name Event.ofName?) EventFilter.check rest).value? <;> simp [eq_comm]

/-- An object is read as event filters exactly if it is written as such. -/
theorem exists_value?_checkAll_iff :
    (∃ filters, (EventFilter.checkAll (.object fields)).value? = some filters) ↔
      AreFilters fields := by
  have hentry : ∀ m : String × Json, (∃ entry, ReadAs m entry) ↔
      (∃ event : Event, m.1 = event.name) ∧ EventFilter.IsWritten m.2 := by
    intro m
    rw [← EventFilter.exists_value?_check_iff, Prod.exists]
    constructor
    · rintro ⟨event, f, hevent, hf⟩
      exact ⟨⟨event, hevent⟩, f, hf⟩
    · rintro ⟨⟨event, hevent⟩, f, hf⟩
      exact ⟨event, f, hevent, hf⟩
  simp only [value?_checkAll_iff, AreFilters, ← hentry]
  constructor
  · rintro ⟨filters, h⟩
    induction h with
    | nil => exact fun _ hm => absurd hm List.not_mem_nil
    | cons hentry _ ih => exact List.forall_mem_cons.mpr ⟨⟨_, hentry⟩, ih⟩
  · intro h
    induction fields with
    | nil => exact ⟨[], .nil⟩
    | cons m rest ih =>
      obtain ⟨⟨entry, hentry⟩, hrest⟩ := List.forall_mem_cons.mp h
      obtain ⟨filters, hfilters⟩ := ih hrest
      exact ⟨entry :: filters, .cons hentry hfilters⟩

/-- For each event the filter is read that the object says. -/
theorem says_of_value?_checkAll
    (h : (EventFilter.checkAll (.object fields)).value? = some filters) (event : Event) :
    Says fields event ((filters.lookup event).getD .empty) := by
  replace h := value?_checkAll_iff.mp h
  induction h with
  | nil => exact ⟨nofun, fun _ => rfl⟩
  | @cons m entry rest filters hentry _ ih =>
    obtain ⟨key, v⟩ := m
    obtain ⟨e, f⟩ := entry
    obtain ⟨rfl, hf⟩ : key = e.name ∧ (EventFilter.check v).value? = some f := hentry
    by_cases he : event = e
    · subst he
      refine ⟨fun w hw => ?_, fun hnone => ?_⟩
      · rw [List.lookup_cons_self] at hw
        obtain rfl := Option.some.inj hw
        rw [List.lookup_cons_self, Option.getD_some]
        obtain @⟨members, -, -, -⟩ := EventFilter.exists_value?_check_iff.mp ⟨f, hf⟩
        exact ⟨members, rfl, EventFilter.saidBy_of_value?_check hf⟩
      · rw [List.lookup_cons_self] at hnone
        cases hnone
    · -- No other event has the same name, so the first entry says nothing about this one.
      have hname : (event.name == e.name) = false := beq_eq_false_iff_ne.mpr fun heq => by
        have hevent := Event.ofName?_name event
        rw [heq, Event.ofName?_name] at hevent
        exact he (Option.some.inj hevent).symm
      have hevent : (event == e) = false := beq_eq_false_iff_ne.mpr he
      rw [List.lookup_cons, hevent]
      exact ⟨fun w hw => ih.present w (by rwa [List.lookup_cons, hname] at hw),
        fun hnone => ih.absent (by rwa [List.lookup_cons, hname] at hnone)⟩

/-! ## Two ways to supply them -/

/-- The two ways in which settings that have no event filters yet get them: as one more argument, or
as one more variable, whose name counts in any letter case. -/
inductive Supplies (env : Environment) (arguments fields : List (String × Json)) :
    Environment → List (String × Json) → Prop where
  | asArgument {before after : List (String × Json)} (h : arguments = before ++ after) :
    Supplies env arguments fields env (before ++ ("event_filters", .object fields) :: after)
  | asVariable {before after : Environment} {name text : String} (h : env = before ++ after)
    (hname : Text.lower name = "hookrelay_event_filters")
    (htext : Json.read text = .ok (.object fields)) :
    Supplies env arguments fields (before ++ (name, text) :: after) arguments

section

variable {env env' : Environment} {arguments arguments' : List (String × Json)} {s : Settings}

/-- If the others are valid, it depends on the event filters alone whether the settings are loaded,
and they are written into the others. -/
theorem given_of_supplies (hvariable : valueOf? env "event_filters" = none)
    (hargument : "event_filters" ∉ arguments.map Prod.fst) (hload : load env arguments = .ok s)
    (h : Supplies env arguments fields env' arguments') :
    IsReadable env' ∧ (check (given env' arguments')).value? =
      (EventFilter.checkAll (.object fields)).value?.map
        fun filters => { s with eventFilters := filters } := by
  obtain ⟨hreadable, hcheck⟩ := load_eq_ok_iff.mp hload
  have hfield : "event_filters" ∈ fieldNames := by decide
  have hold : (withDefault (given env arguments) (.plain "event_filters") []
      EventFilter.checkAll).value? = some [] := by
    rw [value?_withDefault, given?_plain, lookup_given hfield hargument, fromVariable?,
      readVariable_of_none hvariable]
    rfl
  -- In both ways the filters are what is given under their name, and the rest is as before.
  have hexchange : DifferAt "event_filters" (given env arguments) (given env' arguments') →
      (given env' arguments').lookup "event_filters" = some (.object fields) →
      (check (given env' arguments')).value? =
        (EventFilter.checkAll (.object fields)).value?.map
          fun filters => { s with eventFilters := filters } := by
    intro hdiffer hlookup
    rw [value?_check_eventFilters hdiffer hold, value?_withDefault, given?_plain, hlookup, hcheck,
      Option.elim_some]
    cases (EventFilter.checkAll (.object fields)).value? <;> rfl
  cases h with
  | @asArgument before after h =>
    subst h
    refine ⟨hreadable, hexchange (differAt_argument env before after hfield _) ?_⟩
    rw [List.map_append, List.mem_append, not_or] at hargument
    rw [given, merge_append, merge_cons, lookup_merge_of_not_mem hargument.2,
      Dictionary.lookup_put, beq_self_eq_true, if_pos rfl, lookup_merge_of_not_mem hargument.1,
      lookup_filterMap_fromVariable?, if_pos hfield, fromVariable?, readVariable_of_none hvariable]
    rfl
  | @asVariable before after name text h hname htext =>
    subst h
    have hafter : valueOf? after "event_filters" = none := by
      rw [valueOf?_append, Option.or_eq_none_iff] at hvariable
      exact hvariable.1
    have hothers : ∀ n ≠ "event_filters",
        valueOf? (before ++ (name, text) :: after) n = valueOf? (before ++ after) n :=
      fun n => valueOf?_insert_of_ne hname
    have hvalue : valueOf? (before ++ (name, text) :: after) "event_filters" = some text :=
      valueOf?_insert hname hafter
    have hread := readVariable_of_object (by decide) hvalue htext
    refine ⟨fun n hn => ?_, hexchange (differAt_variable hothers arguments) ?_⟩
    · by_cases heq : n = "event_filters"
      · subst heq
        exact ⟨_, hread⟩
      · rw [readVariable_congr (hothers n heq)]
        exact hreadable n hn
    · rw [lookup_given hfield hargument, fromVariable?, hread]
      rfl

end

/-- What becomes of event filters that are added to settings. -/
structure TakesFilters (env : Environment) (arguments fields : List (String × Json))
    (s : Settings) : Prop where
  /-- The settings are loaded exactly if the filters are written as such. -/
  accepted : ∀ env' arguments', Supplies env arguments fields env' arguments' →
    ((∃ s', load env' arguments' = .ok s') ↔ AreFilters fields)
  /-- Otherwise the problems are told. -/
  refused : ∀ env' arguments', Supplies env arguments fields env' arguments' →
    ¬ AreFilters fields → ∃ problems, load env' arguments' = .error (.invalid problems)
  /-- For each event the filtering rules are what is written for it. -/
  taken : ∀ env' arguments' s', Supplies env arguments fields env' arguments' →
    load env' arguments' = .ok s' → ∀ event, Says fields event (s'.matchConfig.filterFor event)
  /-- The other settings are as before. -/
  others : ∀ env' arguments' s', Supplies env arguments fields env' arguments' →
    load env' arguments' = .ok s' → s' = { s with eventFilters := s'.eventFilters }
  /-- It makes no difference how the filters are supplied. -/
  alike : ∀ env₁ arguments₁ s₁ env₂ arguments₂ s₂,
    Supplies env arguments fields env₁ arguments₁ → load env₁ arguments₁ = .ok s₁ →
    Supplies env arguments fields env₂ arguments₂ → load env₂ arguments₂ = .ok s₂ →
    s₁.matchConfig = s₂.matchConfig

/-- **No event filter is ignored**: whatever object is given for the event filters of settings whose
others are valid, as an argument or in the environment. -/
theorem load_takesFilters (env : Environment) (arguments fields : List (String × Json))
    (s : Settings) (hvariable : valueOf? env "event_filters" = none)
    (hargument : "event_filters" ∉ arguments.map Prod.fst) (hload : load env arguments = .ok s) :
    TakesFilters env arguments fields s := by
  have hgiven : ∀ {env' arguments'}, Supplies env arguments fields env' arguments' →
      IsReadable env' ∧ (check (given env' arguments')).value? =
        (EventFilter.checkAll (.object fields)).value?.map
          fun filters => { s with eventFilters := filters } :=
    given_of_supplies hvariable hargument hload
  -- What is loaded are the settings with the filters that are read from the object.
  have hloaded : ∀ {env' arguments' s'}, Supplies env arguments fields env' arguments' →
      (load env' arguments' = .ok s' ↔ ∃ filters,
        (EventFilter.checkAll (.object fields)).value? = some filters ∧
          { s with eventFilters := filters } = s') := by
    intro env' arguments' s' h
    obtain ⟨hreadable, hcheck⟩ := hgiven h
    rw [load_eq_ok_iff, and_iff_right hreadable, hcheck, Option.map_eq_some_iff]
  exact {
    accepted := by
      intro env' arguments' h
      rw [← exists_value?_checkAll_iff]
      constructor
      · rintro ⟨s', hs'⟩
        obtain ⟨filters, hfilters, -⟩ := (hloaded h).mp hs'
        exact ⟨filters, hfilters⟩
      · rintro ⟨filters, hfilters⟩
        exact ⟨_, (hloaded h).mpr ⟨filters, hfilters, rfl⟩⟩
    refused := by
      intro env' arguments' h hnot
      obtain ⟨hreadable, hcheck⟩ := hgiven h
      refine exists_load_eq_invalid hreadable ?_
      rw [hcheck, Option.map_eq_none_iff, Option.eq_none_iff_forall_ne_some]
      exact fun filters hfilters => hnot (exists_value?_checkAll_iff.mp ⟨filters, hfilters⟩)
    taken := by
      intro env' arguments' s' h hs' event
      obtain ⟨filters, hfilters, rfl⟩ := (hloaded h).mp hs'
      exact says_of_value?_checkAll hfilters event
    others := by
      intro env' arguments' s' h hs'
      obtain ⟨filters, -, rfl⟩ := (hloaded h).mp hs'
      rfl
    alike := by
      intro env₁ arguments₁ s₁ env₂ arguments₂ s₂ h₁ hs₁ h₂ hs₂
      obtain ⟨filters₁, hfilters₁, rfl⟩ := (hloaded h₁).mp hs₁
      obtain ⟨filters₂, hfilters₂, rfl⟩ := (hloaded h₂).mp hs₂
      rw [hfilters₁] at hfilters₂
      rw [Option.some.inj hfilters₂] }

/-- A variable with a rule for pushes, whose predicate is null: the rule is taken, and other events
have none. -/
theorem load_takesFilters_of_push :
    (valueOf? [] "event_filters" = none ∧
      "event_filters" ∉ [("secret_token", Json.string "k")].map Prod.fst ∧
      load [] [("secret_token", .string "k")] = .ok { secretToken := "k" }) ∧
    ∃ s, load [("HookRelay_Event_Filters",
        "\x7b\"push\": \x7b\"action\": \"relay\", \"predicate\": null\x7d\x7d")]
        [("secret_token", .string "k")] = .ok s ∧
      (s.matchConfig.filterFor .push).action = some .relay ∧
      s.matchConfig.filterFor .fork = .empty := by
  have hargument : "event_filters" ∉ [("secret_token", Json.string "k")].map Prod.fst := by decide
  have hload : load [] [("secret_token", .string "k")] = .ok { secretToken := "k" } := by rfl
  have htakes := load_takesFilters [] [("secret_token", .string "k")]
    [("push", .object [("action", .string "relay"), ("predicate", .null)])] { secretToken := "k" }
    rfl hargument hload
  have hsupplies : Supplies [] [("secret_token", .string "k")]
      [("push", .object [("action", .string "relay"), ("predicate", .null)])]
      [("HookRelay_Event_Filters",
        "\x7b\"push\": \x7b\"action\": \"relay\", \"predicate\": null\x7d\x7d")]
      [("secret_token", .string "k")] :=
    @Supplies.asVariable [] _ _ [] [] _ _ rfl (by decide +kernel) (by rfl)
  have hfilters : AreFilters
      [("push", .object [("action", .string "relay"), ("predicate", .null)])] := by
    intro m hm
    obtain rfl := List.mem_singleton.mp hm
    refine ⟨⟨.push, rfl⟩, .object (by decide) (fun v hv => ?_) fun v hv => ?_⟩
    · exact .inl (Option.some.inj hv).symm
    · exact .inr (.inl (Option.some.inj hv).symm)
  obtain ⟨s, hs⟩ := (htakes.accepted _ _ hsupplies).mpr hfilters
  obtain ⟨members, hmembers, hsaid⟩ := (htakes.taken _ _ s hsupplies hs .push).present _ rfl
  cases hmembers
  exact ⟨⟨rfl, hargument, hload⟩, s, hs, (hsaid.action .relay).mpr rfl,
    (htakes.taken _ _ s hsupplies hs .fork).absent (by rfl)⟩

end Settings

end WebhookRelay
