import Mathlib.Data.List.DropRight
import WebhookRelay.Log.Output

/-!
# What lines show of a history

While requests are handled, contexts are bound and cleared, and records are given in between. Each
record that is shown makes one line, if a line can be made of it at all, and that line shows what
was bound after the last clearing. Nothing that was bound before it is ever seen again.

- `Log.IsQuiet`, `Log.Call.IsShown`: which records are shown.
- `Log.Call.IsWritable`: a line can be made of a record.
- `Log.boundTraceId`, `Log.boundEventName`: what a history leaves bound.
- `Log.context_foldl`: the context after a history is what the history leaves bound.
- `Log.Output.Tells`: what a run of steps writes.
-/

namespace WebhookRelay.Log

/-! ## Which records are shown -/

/-- A logger is one of those that report every request, or below one of them. -/
def IsQuiet (logger : String) : Prop :=
  ∃ top ∈ quietLoggers, logger = top ∨ ∃ rest, logger = top ++ "." ++ rest

/-- A record is shown: of a quiet logger from warnings on, of any other from the common threshold
on. -/
def Call.IsShown (call : Call) (common : Threshold) : Prop :=
  (IsQuiet call.logger → Level.warning.severity ≤ call.level.severity) ∧
    (¬ IsQuiet call.logger → common.shows call.level = true)

theorem isAtOrBelow_iff {logger top : String} :
    isAtOrBelow logger top = true ↔ logger = top ∨ ∃ rest, logger = top ++ "." ++ rest := by
  unfold isAtOrBelow
  rw [Bool.or_eq_true, decide_eq_true_eq, List.isPrefixOf_iff_prefix]
  refine or_congr_right ?_
  constructor
  · rintro ⟨rest, hrest⟩
    refine ⟨String.ofList rest, String.toList_injective ?_⟩
    simp [← hrest]
  · rintro ⟨rest, rfl⟩
    exact ⟨rest.toList, by simp⟩

theorem shows_thresholdOf_iff {common : Threshold} {call : Call} :
    (thresholdOf common call.logger).shows call.level = true ↔ call.IsShown common := by
  have hquiet : quietLoggers.any (isAtOrBelow call.logger) = true ↔ IsQuiet call.logger := by
    simp only [List.any_eq_true, isAtOrBelow_iff, IsQuiet]
  unfold thresholdOf Call.IsShown
  by_cases h : IsQuiet call.logger
  · rw [if_pos (hquiet.mpr h)]
    simp [h, quietThreshold, Threshold.shows]
  · rw [if_neg (hquiet.not.mpr h)]
    simp [h]

/-! ## Which records make a line -/

/-- Is a value a text? -/
def IsText (v : Json) : Prop := ∃ s, v = .string s

namespace Call

/-- The further entry that counts under a key: the last one. -/
def extra? (call : Call) (key : String) : Option Json := call.extra.reverse.lookup key

/-- No further entry has the name of one of a record's own parts. -/
def IsUnreserved (call : Call) : Prop := ∀ e ∈ call.extra, e.1 ∉ reservedKeys

instance (call : Call) : Decidable call.IsUnreserved :=
  inferInstanceAs (Decidable (∀ e ∈ call.extra, e.1 ∉ reservedKeys))

/-- A line can be made of a record. -/
structure IsWritable (call : Call) (layout : Layout) : Prop where
  /-- The arguments fit the message. -/
  fits : (messageText? call.message call.arguments).isSome = true
  /-- No further entries stand for the making of the message, or for the logger and the call. -/
  plain : isPlain call.extra = true
  /-- On a console a level has to be a text, -/
  level : layout = .console → ∀ v, call.extra? "level" = some v → IsText v
  /-- and so has what stands below the line. -/
  below : layout = .console → ∀ key ∈ Console.sections, ∀ v, call.extra? key = some v →
    v = .null ∨ IsText v

end Call

variable {o : Output} {context : Context} {call : Call} {key : String}

/-- What a line shows under a key: a further entry of that name, or else what is shown without
any. -/
theorem lookup_line (context : Context) (call : Call) (text : String)
    (htime : key ≠ "timestamp") (hrecord : key ≠ recordKey) :
    (line context call text).lookup key =
      (call.extra? key).or ((line context { call with extra := [] } text).lookup key) := by
  have hshown : ((call.extra.filter (·.1 != recordKey)).reverse).lookup key =
      call.extra? key := by
    rw [Call.extra?, ← List.filter_reverse]
    induction call.extra.reverse with
    | nil => rfl
    | cons e rest ih =>
      obtain ⟨a, b⟩ := e
      by_cases ha : a = recordKey
      · rw [List.filter_cons_of_neg (by simpa using ha), ih, List.lookup_cons,
          beq_false_of_ne (ha ▸ hrecord)]
      · rw [List.filter_cons_of_pos (by simpa using ha), List.lookup_cons, List.lookup_cons, ih]
  have hnot : (key == "timestamp") = false := beq_false_of_ne htime
  unfold line
  simp only [Dictionary.lookup_put, hnot, Bool.false_eq_true, if_false, Dictionary.lookup_putAll,
    List.lookup_append, hshown, List.filter_nil, List.reverse_nil, List.nil_append]

namespace Console

/-- A list is mapped to what is there exactly if every item has a result. -/
theorem isSome_filterMapM {α β : Type} (f : α → Option (Option β)) (items : List α) :
    (items.filterMapM f).isSome = items.all fun a => (f a).isSome := by
  induction items with
  | nil => rfl
  | cons a rest ih =>
    rw [List.filterMapM_cons, List.all_cons, ← ih]
    cases f a with
    | none => rfl
    | some b =>
      cases b <;> cases rest.filterMapM f <;> rfl

/-- Only a text can be a level; every other entry with a place of its own can be written. -/
theorem isSome_column?_iff {v : Json} :
    (column? key v).isSome = true ↔ (key = "level" → IsText v) := by
  by_cases hlevel : key = "level"
  · subst hlevel
    cases v <;> simp [column?, IsText]
  · by_cases htime : key = "timestamp"
    · subst htime
      simp [column?]
    · by_cases hevent : key = "event"
      · subst hevent
        simp [column?]
      · simp [column?, hlevel]

theorem isSome_section?_iff {l : Line} :
    (section? l key).isSome = true ↔ ∀ v, l.lookup key = some v → v = .null ∨ IsText v := by
  unfold section?
  cases l.lookup key with
  | none => simp
  | some v => cases v <;> simp [IsText]

theorem isSome_placed?_iff {l : Line} :
    (placed? l key).isSome = true ↔
      (key = "level" → ∀ v, l.lookup "level" = some v → IsText v) := by
  unfold placed?
  cases hlookup : l.lookup key with
  | none =>
    refine ⟨?_, fun _ => rfl⟩
    rintro - rfl v hv
    rw [hlookup] at hv
    cases hv
  | some v =>
    rw [Option.isSome_map, isSome_column?_iff]
    refine forall_congr' fun hkey => ?_
    subst hkey
    simp [hlookup]

/-- A line can be written unless its level or what stands below it is no text. -/
theorem isSome_text?_iff {l : Line} :
    (text? l).isSome = true ↔
      (∀ v, l.lookup "level" = some v → IsText v) ∧
        ∀ key ∈ sections, ∀ v, l.lookup key = some v → v = .null ∨ IsText v := by
  have hparts : (text? l).isSome = true ↔ (columns.filterMapM (placed? l)).isSome = true ∧
      (section? l "stack").isSome = true ∧ (section? l "exception").isSome = true := by
    unfold text?
    cases columns.filterMapM (placed? l) with
    | none => simp
    | some placed =>
      cases section? l "stack" with
      | none => simp
      | some stack => cases section? l "exception" <;> simp
  have hcolumns : (columns.filterMapM (placed? l)).isSome = true ↔
      ∀ v, l.lookup "level" = some v → IsText v := by
    rw [isSome_filterMapM, List.all_eq_true]
    simp only [isSome_placed?_iff]
    exact ⟨fun h => h "level" (by decide) rfl, fun h _ _ _ => h⟩
  rw [hparts, hcolumns, isSome_section?_iff, isSome_section?_iff]
  simp only [sections, List.mem_cons, List.not_mem_nil, or_false, forall_eq_or_imp, forall_eq]

end Console

/-- On a console a line cannot be written if its level or what stands below it is no text. -/
theorem isSome_write?_iff {layout : Layout} {text : String} :
    (layout.write? (line context call text)).isSome = true ↔
      (layout = .console → ∀ v, call.extra? "level" = some v → IsText v) ∧
        (layout = .console → ∀ key ∈ Console.sections, ∀ v, call.extra? key = some v →
          v = .null ∨ IsText v) := by
  cases layout with
  | json => simp [Layout.write?]
  | console =>
    have hlevel : (line context call text).lookup "level" =
        (call.extra? "level").or (some (.string call.level.label)) := by
      rw [lookup_line _ _ _ (by decide) (by decide)]
      obtain ⟨_ | _, _ | _⟩ := context <;> rfl
    have hbelow : ∀ key ∈ Console.sections,
        (line context call text).lookup key = call.extra? key := by
      intro key hkey
      have hnone : (line context { call with extra := [] } text).lookup key = none ∧
          key ≠ "timestamp" ∧ key ≠ recordKey := by
        obtain rfl | rfl : key = "stack" ∨ key = "exception" := by
          simpa [Console.sections] using hkey
        all_goals
          refine ⟨?_, by decide, by decide⟩
          obtain ⟨_ | _, _ | _⟩ := context <;> rfl
      rw [lookup_line _ _ _ hnone.2.1 hnone.2.2, hnone.1, Option.or_none]
    rw [Layout.write?, Option.isSome_map, Console.isSome_text?_iff, hlevel]
    refine and_congr ?_ ?_
    · cases call.extra? "level" with
      | none => simp [IsText]
      | some v => simp
    · simp only [forall_const]
      exact forall₂_congr fun key hkey => by rw [hbelow key hkey]

/-! ## One step -/

/-- A record that is shown and that a line can be made of makes one line. -/
theorem Output.emit_of_isWritable (context : Context) (h : call.IsUnreserved)
    (hshown : call.IsShown o.threshold) (hwritable : call.IsWritable o.layout) :
    ∃ text written, messageText? call.message call.arguments = some text ∧
      o.layout.write? (line context call text) = some written ∧
      o.emit context call = .ok [written] := by
  obtain ⟨text, htext⟩ := Option.isSome_iff_exists.mp hwritable.fits
  obtain ⟨written, hwritten⟩ := Option.isSome_iff_exists.mp
    (isSome_write?_iff.mpr ⟨hwritable.level, hwritable.below⟩ :
      (o.layout.write? (line context call text)).isSome = true)
  refine ⟨text, written, htext, hwritten, ?_⟩
  have hfind : (call.extra.find? fun e => reservedKeys.contains e.1) = none :=
    List.find?_eq_none.mpr fun e he => by simpa using h e he
  rw [emit, if_pos (shows_thresholdOf_iff.mpr hshown), hfind]
  dsimp only
  rw [if_pos hwritable.plain, htext]
  simp [hwritten]

/-- Any other record makes none. -/
theorem Output.emit_of_not_isWritable (h : call.IsUnreserved)
    (hnot : ¬ (call.IsShown o.threshold ∧ call.IsWritable o.layout)) :
    o.emit context call = .ok [] := by
  unfold emit
  split
  case isFalse => rfl
  case isTrue hshows =>
    have hfind : (call.extra.find? fun e => reservedKeys.contains e.1) = none :=
      List.find?_eq_none.mpr fun e he => by simpa using h e he
    rw [hfind]
    dsimp only
    split
    case isFalse => rfl
    case isTrue hplain =>
      cases htext : messageText? call.message call.arguments with
      | none => rfl
      | some text =>
        cases hwritten : o.layout.write? (line context call text) with
        | none => simp [hwritten]
        | some written =>
          have hwrite := isSome_write?_iff.mp (Option.isSome_of_mem hwritten)
          exact absurd ⟨shows_thresholdOf_iff.mp hshows, by simp [htext], hplain, hwrite.1,
            hwrite.2⟩ hnot

/-! ## What a history leaves bound -/

/-- The context after a step. -/
def Step.after (context : Context) : Step → Context
  | .bind traceId eventName => context.bind traceId eventName
  | .clear => {}
  | .say _ => context

/-- Is a step anything else than a clearing? -/
def Step.keeps : Step → Bool
  | .clear => false
  | _ => true

/-- The identity that a step binds. -/
def Step.traceId? : Step → Option String
  | .bind traceId _ => some traceId
  | _ => none

/-- The event that a step binds; an empty name is none. -/
def Step.eventName? : Step → Option String
  | .bind _ eventName => if eventName = "" then none else some eventName
  | _ => none

/-- The steps after the last clearing. -/
def sinceClear (steps : List Step) : List Step := steps.rtakeWhile Step.keeps

/-- The identity that was bound last since the last clearing. -/
def boundTraceId (steps : List Step) : Option String :=
  ((sinceClear steps).filterMap Step.traceId?).getLast?

/-- The event that was bound last since the last clearing. -/
def boundEventName (steps : List Step) : Option String :=
  ((sinceClear steps).filterMap Step.eventName?).getLast?

/-- What was bound last after one more step: what that step binds, if it binds anything. -/
theorem getLast?_sinceClear_concat {α : Type} (f : Step → Option α) (steps : List Step) (s : Step) :
    ((sinceClear (steps ++ [s])).filterMap f).getLast? =
      if s.keeps = true then (f s).or ((sinceClear steps).filterMap f).getLast? else none := by
  rw [sinceClear, List.rtakeWhile_concat]
  split
  · rw [List.filterMap_append, List.filterMap_cons, List.getLast?_append]
    cases f s <;> rfl
  · rfl

/-- The context after a history is what the history leaves bound. -/
theorem context_foldl (steps : List Step) :
    steps.foldl Step.after {} = ⟨boundTraceId steps, boundEventName steps⟩ := by
  induction steps using List.reverseRecOn with
  | nil => rfl
  | append_singleton steps s ih =>
    rw [List.foldl_concat, ih, boundTraceId.eq_1 (steps ++ [s]), boundEventName.eq_1 (steps ++ [s]),
      getLast?_sinceClear_concat, getLast?_sinceClear_concat]
    cases s with
    | clear | say => rfl
    | bind traceId eventName =>
      by_cases he : eventName = "" <;>
        simp [Step.keeps, Step.after, Step.traceId?, Step.eventName?, he, Context.bind,
          boundEventName]

/-! ## Runs -/

namespace Output

/-- The steps of a run, one by one: none fails if no record has a reserved entry, and each is made
in the context that the steps before it have left. -/
theorem exists_run (o : Output) {steps : List Step}
    (h : ∀ call, Step.say call ∈ steps → call.IsUnreserved) (context : Context) :
    ∃ written, o.run context steps = .ok written ∧ written.length = steps.length ∧
      ∀ before s after, steps = before ++ s :: after →
        ∃ first, written[before.length]? = some first ∧
          o.step (before.foldl Step.after context) s =
            .ok (s.after (before.foldl Step.after context), first) ∧
          o.run (s.after (before.foldl Step.after context)) after =
            .ok (written.drop (before.length + 1)) := by
  induction steps generalizing context with
  | nil => exact ⟨[], rfl, rfl, fun before s after h => by simp at h⟩
  | cons s rest ih =>
    obtain ⟨first, hfirst⟩ : ∃ first, o.step context s = .ok (s.after context, first) := by
      cases s with
      | bind | clear => exact ⟨_, rfl⟩
      | say call =>
        have hcall := h call List.mem_cons_self
        by_cases hline : call.IsShown o.threshold ∧ call.IsWritable o.layout
        · obtain ⟨_, written, -, -, hemit⟩ :=
            emit_of_isWritable context hcall hline.1 hline.2
          exact ⟨[written], by rw [step, hemit]; rfl⟩
        · exact ⟨[], by rw [step, emit_of_not_isWritable hcall hline]; rfl⟩
    obtain ⟨others, hothers, hlength, hsteps⟩ :=
      ih (fun call hmem => h call (List.mem_cons_of_mem _ hmem)) (s.after context)
    refine ⟨first :: others, ?_, congrArg Nat.succ hlength, ?_⟩
    · rw [run, hfirst]
      show (o.run (s.after context) rest >>= fun others => _) = _
      rw [hothers]
      rfl
    · intro before x after hsplit
      cases before with
      | nil =>
        obtain ⟨rfl, rfl⟩ := List.cons.inj hsplit
        exact ⟨first, rfl, hfirst, hothers⟩
      | cons y before =>
        obtain ⟨rfl, hrest⟩ := List.cons.inj hsplit
        exact hsteps before x after hrest

end Output

/-- A line shows what some steps have left bound, except where a further entry has that name, and
nothing else of them. -/
structure Shows (earlier : List Step) (call : Call) (text : String) (l : Line) : Prop where
  traceId : l.lookup "trace_id" =
    (call.extra? "trace_id").or ((boundTraceId earlier).map Json.string)
  eventName : l.lookup "event_name" =
    (call.extra? "event_name").or ((boundEventName earlier).map Json.string)
  others : ∀ key, key ≠ "trace_id" → key ≠ "event_name" →
    l.lookup key = (line {} call text).lookup key

/-- The line of a record that is given after some steps shows what they have left bound. -/
theorem shows_line (earlier : List Step) (call : Call) (text : String) :
    Shows earlier call text (line (earlier.foldl Step.after {}) call text) := by
  rw [context_foldl]
  constructor
  · rw [lookup_line _ _ _ (by decide) (by decide)]
    cases boundTraceId earlier <;> cases boundEventName earlier <;> rfl
  · rw [lookup_line _ _ _ (by decide) (by decide)]
    cases boundTraceId earlier <;> cases boundEventName earlier <;> rfl
  · intro key htrace hevent
    unfold line
    rw [Dictionary.lookup_put, Dictionary.lookup_put, Dictionary.lookup_putAll,
      Dictionary.lookup_putAll]
    have htrace : (key == "trace_id") = false := beq_false_of_ne htrace
    have hevent : (key == "event_name") = false := beq_false_of_ne hevent
    cases boundTraceId earlier <;> cases boundEventName earlier <;>
      simp [Context.entries, List.lookup_append, List.lookup_cons, htrace, hevent]

namespace Output

/-- What a run of steps has written. -/
structure Tells (o : Output) (steps : List Step) (written : List (List Written)) : Prop where
  length : written.length = steps.length
  /-- A record that is shown, and that a line can be made of, makes exactly one line, which shows
  what is bound since the last clearing. -/
  said : ∀ before call after, steps = before ++ .say call :: after →
    call.IsShown o.threshold → call.IsWritable o.layout →
      ∃ text l w, messageText? call.message call.arguments = some text ∧
        Shows before call text l ∧ o.layout.write? l = some w ∧
        written[before.length]? = some [w]
  /-- Any other record makes none, -/
  unsaid : ∀ before call after, steps = before ++ .say call :: after →
    ¬ (call.IsShown o.threshold ∧ call.IsWritable o.layout) → written[before.length]? = some []
  /-- and neither do binding and clearing. -/
  silent : ∀ before s after, steps = before ++ s :: after → (∀ call, s ≠ .say call) →
    written[before.length]? = some []
  /-- After a clearing all is written as if nothing had come before it. -/
  forgotten : ∀ before after, steps = before ++ .clear :: after →
    o.run {} after = .ok (written.drop (before.length + 1))

/-- The steps of two requests, of which the second binds no event. -/
def twoRequests : List Step :=
  [.bind "t1" "push", .say ⟨⟨.info, "hookrelay.test", "first", []⟩, [], "now"⟩, .clear,
    .bind "t2" "", .say ⟨⟨.info, "hookrelay.test", "second", []⟩, [], "now"⟩]

/-- Records that no line can be made of: an argument that does not fit, further entries that stand
for the making of the message or for the logger and the call, and a level and a stack that are no
texts. -/
def unwritable : List Call :=
  [⟨⟨.info, "hookrelay.test", "%d", []⟩, [.string "x"], "now"⟩,
    ⟨⟨.info, "hookrelay.test", "m", [("getMessage", .int 1)]⟩, [], "now"⟩,
    ⟨⟨.info, "hookrelay.test", "m", [("_logger", .int 1), ("_name", .int 1)]⟩, [], "now"⟩,
    ⟨⟨.info, "hookrelay.test", "m", [("level", .int 1)]⟩, [], "now"⟩,
    ⟨⟨.info, "hookrelay.test", "m", [("stack", .int 1)]⟩, [], "now"⟩]

end Output

end WebhookRelay.Log
