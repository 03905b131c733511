import WebhookRelay.Proofs.Validation.Spelling
import WebhookRelay.Settings

/-!
# How settings are loaded

Each setting is looked up by its name in what the environment and the arguments give together. So
settings that are given differently in one place only are loaded alike except for that place.

- `Checked.value?_seq_exchange`, `value?_seq_of_exchange`: one part of a checked value is exchanged.
- `Settings.valueOf?_append`: the last variable of a name counts.
- `Settings.readEnvironment_eq_ok_iff`: the environment is read variable by variable.
- `Settings.lookup_merge_insert`: one more argument changes nothing but its own setting.
- `Settings.load_eq_ok_iff`: settings are loaded if all that is given can be read and is valid.
- `Settings.value?_check_eventFilters`, `Settings.value?_check_logLevel`: one setting is exchanged.
-/

namespace WebhookRelay

open Validation
open WebhookRelay.Validation.Field

/-! ## Exchanging a part -/

namespace Checked

variable {α β δ : Type}

/-- Whatever has been checked is so. -/
def All (P : α → Prop) (x : Checked α) : Prop := ∀ a, x.value? = some a → P a

/-- What holds whatever the next part is holds with this one. -/
theorem All.seq {P : β → Prop} {f : Checked (α → β)} (h : f.All fun g => ∀ a, P (g a))
    (x : Checked α) : (f <*> x).All P := by
  intro b hb
  rw [value?_seq, Option.bind_eq_some_iff] at hb
  obtain ⟨g, hg, hb⟩ := hb
  obtain ⟨a, -, rfl⟩ := Option.map_eq_some_iff.mp hb
  exact h g hg a

theorem All.map {P : β → Prop} {f : α → β} (h : ∀ a, P (f a)) (x : Checked α) :
    (f <$> x).All P := by
  intro b hb
  rw [value?_map] at hb
  obtain ⟨a, -, rfl⟩ := Option.map_eq_some_iff.mp hb
  exact h a

/-- A part is exchanged: with the new one the value is the one with the old one, in which the new
part has been written. -/
theorem value?_seq_exchange {f : Checked (δ → β)} {old new : Checked δ} {d : δ} {write : δ → β → β}
    (hold : old.value? = some d) (hwrite : f.All fun g => ∀ d', write d' (g d) = g d') :
    (f <*> new).value? = new.value?.bind fun d' => (f <*> old).value?.map (write d') := by
  rw [value?_seq, value?_seq, hold]
  cases hf : f.value? with
  | none => cases new.value? <;> rfl
  | some g =>
    cases new.value? with
    | none => rfl
    | some d' => exact congrArg some (hwrite g hf d').symm

/-- The parts that follow do not change that. -/
theorem value?_seq_of_exchange {f f' : Checked (α → β)} {new : Option δ} {write : δ → β → β}
    (h : f'.value? = new.bind fun d => f.value?.map fun g a => write d (g a)) (x : Checked α) :
    (f' <*> x).value? = new.bind fun d => (f <*> x).value?.map (write d) := by
  rw [value?_seq, value?_seq, h]
  cases new with
  | none => rfl
  | some d => cases f.value? <;> cases x.value? <;> rfl

theorem value?_seqLeft_of_exchange {x x' : Checked β} {y y' : Checked α} {new : Option δ}
    {write : δ → β → β} (h : x'.value? = new.bind fun d => x.value?.map (write d))
    (hy : y'.value? = y.value?) :
    (x' <* y').value? = new.bind fun d => (x <* y).value?.map (write d) := by
  rw [value?_seqLeft, value?_seqLeft, h, hy]
  cases new with
  | none => rfl
  | some d => cases x.value? <;> cases y.value? <;> rfl

end Checked

/-! ## Members with one spelling -/

namespace Validation

variable {α : Type} {fields fields' : List (String × Json)}

/-- A member whose key is its name is looked up by it. -/
theorem given?_plain (fields : List (String × Json)) (name : String) :
    (Field.plain name).given? fields = fields.lookup name := by
  unfold given? used? Field.plain
  dsimp only
  cases fields.lookup name <;> rfl

/-- Its value depends on nothing else. -/
theorem withDefault_plain_congr {name : String} (h : fields.lookup name = fields'.lookup name)
    (default : α) (check : Json → Checked α) :
    withDefault fields (.plain name) default check =
      withDefault fields' (.plain name) default check := by
  unfold withDefault used? Field.plain
  dsimp only
  rw [h]

/-- There are no other members if all keys are known. -/
theorem noOthers_plain_iff {names : List String} :
    noOthers fields (names.map Field.plain) = .valid () ↔
      ∀ key ∈ fields.map Prod.fst, key ∈ names := by
  have hspelled : ∀ name key, (Field.plain name).isSpelled key = true ↔ key = name := by
    simp [isSpelled, Field.plain]
  have hknown : Unambiguous (names.map Field.plain) := by
    intro f hf g hg hkey
    obtain ⟨a, -, rfl⟩ := List.mem_map.mp hf
    obtain ⟨b, -, rfl⟩ := List.mem_map.mp hg
    obtain heq | heq := hkey
    · exact congrArg Field.plain ((hspelled b a).mp heq)
    · exact congrArg Field.plain ((hspelled b a).mp heq)
  have honce : ∀ f ∈ names.map Field.plain, ¬ f.GivenTwice fields := by
    intro f hf htwice
    obtain ⟨a, -, rfl⟩ := List.mem_map.mp hf
    exact htwice.1 rfl
  rw [noOthers_eq_valid_iff hknown]
  constructor
  · rintro ⟨hall, -⟩ key hkey
    obtain ⟨m, hm, rfl⟩ := List.mem_map.mp hkey
    obtain ⟨f, hf, heq⟩ := hall m hm
    obtain ⟨name, hname, rfl⟩ := List.mem_map.mp hf
    rwa [(hspelled name m.1).mp heq]
  · intro hall
    refine ⟨fun m hm => ?_, honce⟩
    exact ⟨.plain m.1, List.mem_map_of_mem (hall m.1 (List.mem_map_of_mem hm)),
      (hspelled m.1 m.1).mpr rfl⟩

/-- So two objects have no others if their keys are known alike. -/
theorem value?_noOthers_eq {names : List String}
    (h : (∀ key ∈ fields.map Prod.fst, key ∈ names) ↔ ∀ key ∈ fields'.map Prod.fst, key ∈ names) :
    (noOthers fields (names.map Field.plain)).value? =
      (noOthers fields' (names.map Field.plain)).value? := by
  rw [← noOthers_plain_iff, ← noOthers_plain_iff] at h
  cases hothers : noOthers fields (names.map Field.plain) with
  | valid u => rw [h.mp hothers]
  | invalid ps =>
    cases hothers' : noOthers fields' (names.map Field.plain) with
    | valid u =>
      rw [h.mpr hothers'] at hothers
      cases hothers
    | invalid ps' => rfl

end Validation

namespace Settings

/-! ## The environment -/

/-- Of two environments one after the other, the second one counts first. -/
theorem valueOf?_append (env env' : Environment) (name : String) :
    valueOf? (env ++ env') name = (valueOf? env' name).or (valueOf? env name) := by
  unfold valueOf?
  rw [List.reverse_append, List.find?_append]
  cases env'.reverse.find? fun e => Text.lower e.1 == variableStart ++ name <;> rfl

/-- A variable counts for the setting that it is named for. -/
theorem valueOf?_cons (key text : String) (env : Environment) (name : String) :
    valueOf? ((key, text) :: env) name =
      (valueOf? env name).or
        (if Text.lower key = variableStart ++ name then some text else none) := by
  rw [← List.singleton_append, valueOf?_append]
  congr 1
  by_cases h : Text.lower key = variableStart ++ name
  · simp [valueOf?, h]
  · simp [valueOf?, h]

/-- A variable for one setting does not count for another one. -/
theorem valueOf?_insert_of_ne {before after : Environment} {key text name other : String}
    (hkey : Text.lower key = variableStart ++ name) (hne : other ≠ name) :
    valueOf? (before ++ (key, text) :: after) other = valueOf? (before ++ after) other := by
  have hother : ¬ Text.lower key = variableStart ++ other := by
    rw [hkey, String.ext_iff, String.toList_append, String.toList_append]
    exact fun heq => hne (String.ext (List.append_cancel_left heq)).symm
  rw [valueOf?_append, valueOf?_append, valueOf?_cons, if_neg hother, Option.or_none]

/-- It counts for its own one if no other variable after it does. -/
theorem valueOf?_insert {before after : Environment} {key text name : String}
    (hkey : Text.lower key = variableStart ++ name) (hafter : valueOf? after name = none) :
    valueOf? (before ++ (key, text) :: after) name = some text := by
  rw [valueOf?_append, valueOf?_cons, if_pos hkey, hafter, Option.none_or, Option.some_or]

/-- Writing a variable for one setting changes nothing for another one. -/
theorem valueOf?_put_of_ne {env : Environment} {key text name other : String}
    (hkey : Text.lower key = variableStart ++ name) (hne : other ≠ name) :
    valueOf? (Dictionary.put env key text) other = valueOf? env other := by
  induction env with
  | nil =>
    show valueOf? ([] ++ (key, text) :: []) other = valueOf? ([] ++ []) other
    exact valueOf?_insert_of_ne hkey hne
  | cons entry rest ih =>
    obtain ⟨k, old⟩ := entry
    rw [Dictionary.put]
    split
    case isTrue h =>
      obtain rfl := eq_of_beq h
      show valueOf? ([] ++ (key, text) :: rest) other = valueOf? ([] ++ (key, old) :: rest) other
      rw [valueOf?_insert_of_ne hkey hne, valueOf?_insert_of_ne hkey hne]
    case isFalse => rw [valueOf?_cons, valueOf?_cons, ih]

/-- A variable that is written counts for its setting if it is the only one for it. -/
theorem valueOf?_put {env : Environment} {key text name : String}
    (hkey : Text.lower key = variableStart ++ name) (hkeys : (env.map Prod.fst).Nodup)
    (honly : ∀ e ∈ env, Text.lower e.1 = variableStart ++ name → e.1 = key) :
    valueOf? (Dictionary.put env key text) name = some text := by
  have hlookup : (Dictionary.put env key text).lookup key = some text := by
    rw [Dictionary.lookup_put, beq_self_eq_true, if_pos rfl]
  have hmem : (key, text) ∈ (Dictionary.put env key text).reverse :=
    List.mem_reverse.mpr (Dictionary.mem_of_lookup hlookup)
  unfold valueOf?
  cases hfind : (Dictionary.put env key text).reverse.find? fun e =>
      Text.lower e.1 == variableStart ++ name with
  | none =>
    have hnot := List.find?_eq_none.mp hfind _ hmem
    rw [beq_iff_eq] at hnot
    exact absurd hkey hnot
  | some e =>
    have hfound := List.mem_reverse.mp (List.mem_of_find?_eq_some hfind)
    have hlower := List.find?_some hfind
    rw [beq_iff_eq] at hlower
    have hname : e.1 = key := by
      obtain rfl | hold := Dictionary.mem_put hfound
      · rfl
      · exact honly e hold hlower
    have hvalue := Dictionary.lookup_of_mem (Dictionary.nodup_keys_put hkeys key text) hfound
    rw [hname, hlookup] at hvalue
    exact congrArg some (Option.some.inj hvalue).symm

/-- What is read of a variable depends on its text alone. -/
theorem readVariable_congr {env env' : Environment} {name : String}
    (h : valueOf? env name = valueOf? env' name) :
    readVariable env name = readVariable env' name := by
  unfold readVariable
  rw [h]

/-- A variable gives no setting but its own. -/
theorem fst_of_readVariable {env : Environment} {name : String} {entry : String × Json}
    (h : readVariable env name = .ok (some entry)) : entry.1 = name := by
  unfold readVariable at h
  split at h
  · cases h
  · split at h
    · split at h <;> cases h
      rfl
    · cases h
      rfl

/-- What a variable gives, if it can be read. -/
def fromVariable? (env : Environment) (name : String) : Option (String × Json) :=
  (readVariable env name).toOption.join

theorem fst_of_fromVariable? {env : Environment} {name : String} {entry : String × Json}
    (h : fromVariable? env name = some entry) : entry.1 = name := by
  unfold fromVariable? at h
  cases hread : readVariable env name with
  | error e =>
    rw [hread] at h
    cases h
  | ok found =>
    rw [hread] at h
    obtain rfl : found = some entry := h
    exact fst_of_readVariable hread

/-- All variables that are looked for can be read. -/
def IsReadable (env : Environment) : Prop :=
  ∀ name ∈ fieldNames, ∃ entry, readVariable env name = .ok entry

theorem mapM_readVariable_eq_ok_iff {env : Environment} {names : List String}
    {entries : List (Option (String × Json))} :
    names.mapM (readVariable env) = .ok entries ↔
      (∀ name ∈ names, ∃ entry, readVariable env name = .ok entry) ∧
        entries = names.map (fromVariable? env) := by
  induction names generalizing entries with
  | nil => simp [pure, Except.pure, eq_comm]
  | cons name rest ih =>
    rw [List.mapM_cons, List.forall_mem_cons, List.map_cons, fromVariable?]
    cases hname : readVariable env name with
    | error e => exact ⟨nofun, fun ⟨⟨⟨_, h⟩, _⟩, _⟩ => nomatch h⟩
    | ok entry =>
      cases hrest : rest.mapM (readVariable env) with
      | error e =>
        refine ⟨nofun, fun ⟨⟨_, h⟩, _⟩ => ?_⟩
        rw [ih.mpr ⟨h, rfl⟩] at hrest
        cases hrest
      | ok others =>
        obtain ⟨hall, rfl⟩ := ih.mp hrest
        constructor
        · rintro ⟨⟩
          exact ⟨⟨⟨entry, rfl⟩, hall⟩, rfl⟩
        · rintro ⟨-, rfl⟩
          rfl

/-- The environment is read variable by variable. -/
theorem readEnvironment_eq_ok_iff {env : Environment} {fields : List (String × Json)} :
    readEnvironment env = .ok fields ↔
      IsReadable env ∧ fields = fieldNames.filterMap (fromVariable? env) := by
  have hcollect : (fieldNames.map (fromVariable? env)).filterMap id =
      fieldNames.filterMap (fromVariable? env) := by
    rw [List.filterMap_map]
    rfl
  unfold readEnvironment
  cases hread : fieldNames.mapM (readVariable env) with
  | error e =>
    refine ⟨nofun, fun ⟨h, _⟩ => ?_⟩
    rw [mapM_readVariable_eq_ok_iff.mpr ⟨h, rfl⟩] at hread
    cases hread
  | ok entries =>
    obtain ⟨hall, rfl⟩ := mapM_readVariable_eq_ok_iff.mp hread
    constructor
    · rintro ⟨⟩
      exact ⟨hall, hcollect⟩
    · rintro ⟨-, rfl⟩
      exact congrArg Except.ok hcollect

/-- A setting is given in the environment as its variable says. -/
theorem lookup_filterMap_fromVariable? (env : Environment) (names : List String) (name : String) :
    (names.filterMap (fromVariable? env)).lookup name =
      if name ∈ names then (fromVariable? env name).map Prod.snd else none := by
  induction names with
  | nil => rfl
  | cons n rest ih =>
    rw [List.filterMap_cons]
    cases hentry : fromVariable? env n with
    | none =>
      dsimp only
      rw [ih]
      by_cases hn : name = n
      · subst hn
        rw [if_pos List.mem_cons_self, hentry]
        split <;> rfl
      · simp only [List.mem_cons, or_iff_right hn]
    | some entry =>
      obtain ⟨key, v⟩ := entry
      obtain rfl : key = n := fst_of_fromVariable? hentry
      dsimp only
      rw [List.lookup_cons]
      by_cases hn : name = key
      · subst hn
        rw [beq_self_eq_true, if_pos List.mem_cons_self, hentry]
        rfl
      · simp only [beq_eq_false_iff_ne.mpr hn, ih, List.mem_cons, or_iff_right hn]

/-! ## Arguments -/

theorem merge_cons (fields : Dictionary String Json) (key : String) (v : Json)
    (rest : List (String × Json)) :
    merge fields ((key, v) :: rest) =
      merge (fields.put key (mergeValue (fields.lookup key) v)) rest := by
  rw [merge]

theorem merge_append (fields : Dictionary String Json) (arguments more : List (String × Json)) :
    merge fields (arguments ++ more) = merge (merge fields arguments) more := by
  induction arguments generalizing fields with
  | nil => rw [List.nil_append, merge]
  | cons entry rest ih => rw [List.cons_append, merge_cons, merge_cons, ih]

/-- What is not among the arguments is given as before. -/
theorem lookup_merge_of_not_mem {fields : Dictionary String Json}
    {arguments : List (String × Json)} {name : String} (h : name ∉ arguments.map Prod.fst) :
    (merge fields arguments).lookup name = fields.lookup name := by
  induction arguments generalizing fields with
  | nil => rw [merge]
  | cons entry rest ih =>
    rw [List.map_cons, List.mem_cons, not_or] at h
    rw [merge_cons, ih h.2, Dictionary.lookup_put, if_neg fun heq => h.1 (beq_iff_eq.mp heq)]

/-- Two dictionaries that read alike except for one name do so after merging. -/
theorem lookup_merge_congr {fields fields' : Dictionary String Json} {name : String}
    (h : ∀ n ≠ name, fields.lookup n = fields'.lookup n) (arguments : List (String × Json)) :
    ∀ n ≠ name, (merge fields arguments).lookup n = (merge fields' arguments).lookup n := by
  induction arguments generalizing fields fields' with
  | nil =>
    rw [merge, merge]
    exact h
  | cons entry rest ih =>
    obtain ⟨key, v⟩ := entry
    rw [merge_cons, merge_cons]
    refine ih fun n hn => ?_
    rw [Dictionary.lookup_put, Dictionary.lookup_put, h n hn]
    by_cases hkey : key = name
    · rw [if_neg fun heq => hn ((beq_iff_eq.mp heq).trans hkey),
        if_neg fun heq => hn ((beq_iff_eq.mp heq).trans hkey)]
    · rw [h key hkey]

/-- One more argument changes nothing but its own setting. -/
theorem lookup_merge_insert (fields : Dictionary String Json)
    (before after : List (String × Json)) (name : String) (v : Json) :
    ∀ n ≠ name, (merge fields (before ++ (name, v) :: after)).lookup n =
      (merge fields (before ++ after)).lookup n := by
  intro n hn
  rw [merge_append, merge_append, merge_cons]
  have hput : ∀ k ≠ name,
      (Dictionary.put (merge fields before) name
        (mergeValue ((merge fields before).lookup name) v)).lookup k =
      (merge fields before).lookup k := by
    intro k hk
    rw [Dictionary.lookup_put, if_neg fun heq => hk (beq_iff_eq.mp heq)]
  exact lookup_merge_congr hput after n hn

/-- All keys of a dictionary and of the arguments are known if those of both together are. -/
theorem keys_merge_iff {P : String → Prop} (fields : Dictionary String Json)
    (arguments : List (String × Json)) :
    (∀ key ∈ (merge fields arguments).map Prod.fst, P key) ↔
      (∀ key ∈ fields.map Prod.fst, P key) ∧ ∀ key ∈ arguments.map Prod.fst, P key := by
  induction arguments generalizing fields with
  | nil =>
    rw [merge]
    simp
  | cons entry rest ih =>
    obtain ⟨key, v⟩ := entry
    rw [merge_cons, ih, Dictionary.keys_put, List.map_cons, List.forall_mem_cons]
    by_cases hkey : key ∈ fields.map Prod.fst
    · rw [if_pos hkey]
      exact ⟨fun ⟨h, hrest⟩ => ⟨h, h key hkey, hrest⟩, fun ⟨h, _, hrest⟩ => ⟨h, hrest⟩⟩
    · rw [if_neg hkey, List.forall_mem_append, List.forall_mem_singleton, and_assoc]

/-! ## Loading -/

/-- All that the environment and the arguments give. -/
def given (env : Environment) (arguments : List (String × Json)) : Dictionary String Json :=
  merge (fieldNames.filterMap (fromVariable? env)) arguments

variable {env : Environment} {arguments : List (String × Json)}

/-- What is not among the arguments is given by its variable, if at all. -/
theorem lookup_given {name : String} (hname : name ∈ fieldNames)
    (h : name ∉ arguments.map Prod.fst) :
    (given env arguments).lookup name = (fromVariable? env name).map Prod.snd := by
  rw [given, lookup_merge_of_not_mem h, lookup_filterMap_fromVariable?, if_pos hname]

/-- A variable that is not there gives nothing. -/
theorem readVariable_of_none {name : String} (h : valueOf? env name = none) :
    readVariable env name = .ok none := by
  rw [readVariable, h]

/-- A variable that holds an object gives it. -/
theorem readVariable_of_object {name text : String} (hname : name ∈ structuredNames)
    (h : valueOf? env name = some text) {fields : List (String × Json)}
    (htext : Json.read text = .ok (.object fields)) :
    readVariable env name = .ok (some (name, .object fields)) := by
  simp only [readVariable, h, List.contains_iff_mem, hname, if_true, htext]

/-- Once the environment has been read, it depends on the checks whether settings are loaded. -/
theorem load_of_isReadable (h : IsReadable env) :
    load env arguments =
      match check (given env arguments) with
      | .valid s => .ok s
      | .invalid ps => .error (LoadError.invalid ps) := by
  unfold load
  rw [readEnvironment_eq_ok_iff.mpr ⟨h, rfl⟩]
  rfl

/-- Settings are loaded if all that is given can be read and is valid. -/
theorem load_eq_ok_iff {s : Settings} :
    load env arguments = .ok s ↔
      IsReadable env ∧ (check (given env arguments)).value? = some s := by
  constructor
  · intro h
    have hreadable : IsReadable env := by
      cases hread : readEnvironment env with
      | error e =>
        unfold load at h
        rw [hread] at h
        cases h
      | ok fields => exact (readEnvironment_eq_ok_iff.mp hread).1
    rw [load_of_isReadable hreadable] at h
    refine ⟨hreadable, ?_⟩
    cases hcheck : check (given env arguments) with
    | valid a =>
      rw [hcheck] at h
      exact congrArg some (Except.ok.inj h)
    | invalid ps =>
      rw [hcheck] at h
      cases h
  · rintro ⟨hreadable, hcheck⟩
    rw [load_of_isReadable hreadable, Checked.value?_eq_some_iff.mp hcheck]

/-- If all can be read but not all is valid, the problems are told. -/
theorem exists_load_eq_invalid (hreadable : IsReadable env)
    (h : (check (given env arguments)).value? = none) :
    ∃ problems, load env arguments = .error (.invalid problems) := by
  rw [load_of_isReadable hreadable]
  cases hcheck : check (given env arguments) with
  | valid a =>
    rw [hcheck] at h
    cases h
  | invalid ps => exact ⟨ps, rfl⟩

/-! ## One setting -/

section Exchange

variable {fields fields' : List (String × Json)}

/-- Two dictionaries with the same settings except for one, and with keys that are known alike. -/
structure DifferAt (name : String) (fields fields' : List (String × Json)) : Prop where
  same : ∀ n ≠ name, fields'.lookup n = fields.lookup n
  known : (∀ key ∈ fields'.map Prod.fst, key ∈ fieldNames) ↔
    ∀ key ∈ fields.map Prod.fst, key ∈ fieldNames

/-- Other event filters are written into the settings as they are. -/
theorem value?_check_eventFilters (h : DifferAt "event_filters" fields fields')
    {old : Dictionary Event EventFilter}
    (hold : (withDefault fields (.plain "event_filters") [] EventFilter.checkAll).value? =
      some old) :
    (check fields').value? =
      (withDefault fields' (.plain "event_filters") [] EventFilter.checkAll).value?.bind
        fun filters => (check fields).value?.map fun s => { s with eventFilters := filters } := by
  unfold check
  dsimp only
  simp (disch := decide) only [withDefault_plain_congr (h.same _ _)]
  refine Checked.value?_seqLeft_of_exchange ?_ (value?_noOthers_eq h.known)
  iterate 12 refine Checked.value?_seq_of_exchange ?_ _
  refine Checked.value?_seq_exchange hold ?_
  iterate 3 refine Checked.All.seq ?_ _
  exact Checked.All.map (fun _ _ _ _ _ => rfl) _

/-- So is another level. -/
theorem value?_check_logLevel (h : DifferAt "log_level" fields fields') {old : String}
    (hold : (withDefault fields (.plain "log_level") "info" string).value? = some old) :
    (check fields').value? =
      (withDefault fields' (.plain "log_level") "info" string).value?.bind fun level =>
        (check fields).value?.map fun s => { s with logLevel := level } := by
  unfold check
  dsimp only
  simp (disch := decide) only [withDefault_plain_congr (h.same _ _)]
  refine Checked.value?_seqLeft_of_exchange ?_ (value?_noOthers_eq h.known)
  refine Checked.value?_seq_of_exchange ?_ _
  refine Checked.value?_seq_exchange hold ?_
  iterate 14 refine Checked.All.seq ?_ _
  exact Checked.All.map (fun _ _ _ _ _ _ _ _ _ _ _ _ _ _ _ _ => rfl) _

/-- With one more argument the rest is given as before. -/
theorem differAt_argument (env : Environment) (before after : List (String × Json)) {name : String}
    (hname : name ∈ fieldNames) (v : Json) :
    DifferAt name (given env (before ++ after)) (given env (before ++ (name, v) :: after)) where
  same := lookup_merge_insert _ before after name v
  known := by
    unfold given
    rw [keys_merge_iff, keys_merge_iff, List.map_append, List.map_append, List.forall_mem_append,
      List.forall_mem_append, List.map_cons, List.forall_mem_cons, and_iff_right hname]

/-- With another variable for one setting the rest is given as before. -/
theorem differAt_variable {env env' : Environment} {name : String}
    (h : ∀ n ≠ name, valueOf? env' n = valueOf? env n) (arguments : List (String × Json)) :
    DifferAt name (given env arguments) (given env' arguments) where
  same := by
    refine lookup_merge_congr (fun n hn => ?_) arguments
    rw [lookup_filterMap_fromVariable?, lookup_filterMap_fromVariable?, fromVariable?,
      fromVariable?, readVariable_congr (h n hn)]
  known := by
    -- The environment gives no settings but known ones.
    have hknown : ∀ env : Environment,
        ∀ key ∈ (fieldNames.filterMap (fromVariable? env)).map Prod.fst, key ∈ fieldNames := by
      intro env key hkey
      obtain ⟨entry, hentry, rfl⟩ := List.mem_map.mp hkey
      obtain ⟨n, hn, hfound⟩ := List.mem_filterMap.mp hentry
      rwa [fst_of_fromVariable? hfound]
    unfold given
    rw [keys_merge_iff, keys_merge_iff, and_iff_right (hknown env), and_iff_right (hknown env')]

/-! ### The level -/

variable {env env' : Environment}

/-- The variable for the level can hold any text. -/
theorem readVariable_logLevel (env : Environment) :
    readVariable env "log_level" =
      .ok ((valueOf? env "log_level").map fun level => ("log_level", .string level)) := by
  unfold readVariable
  cases valueOf? env "log_level" <;> rfl

/-- The level is what its variable holds, or else the default. -/
theorem value?_logLevel (env : Environment) :
    (withDefault (given env []) (.plain "log_level") "info" string).value? =
      some ((valueOf? env "log_level").getD "info") := by
  have hfield : "log_level" ∈ fieldNames := by decide
  rw [value?_withDefault, given?_plain, lookup_given hfield List.not_mem_nil, fromVariable?,
    readVariable_logLevel]
  cases valueOf? env "log_level" <;> rfl

/-- With another level the same settings are loaded, but for the level. -/
theorem load_eq_ok_iff_of_logLevel {level : String} {s : Settings}
    (hothers : ∀ name ≠ "log_level", valueOf? env' name = valueOf? env name)
    (hlevel : valueOf? env' "log_level" = some level) :
    load env' [] = .ok s ↔ ∃ s', load env [] = .ok s' ∧ s = { s' with logLevel := level } := by
  have hreadable : IsReadable env' ↔ IsReadable env := by
    refine forall₂_congr fun name _ => ?_
    by_cases hname : name = "log_level"
    · rw [hname, readVariable_logLevel, readVariable_logLevel]
      exact ⟨fun _ => ⟨_, rfl⟩, fun _ => ⟨_, rfl⟩⟩
    · rw [readVariable_congr (hothers name hname)]
  have hcheck := value?_check_logLevel (differAt_variable hothers []) (value?_logLevel env)
  rw [value?_logLevel, hlevel] at hcheck
  simp only [load_eq_ok_iff, hreadable, hcheck]
  cases (check (given env [])).value? <;> simp [eq_comm]

end Exchange

end Settings

end WebhookRelay
