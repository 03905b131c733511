import WebhookRelay.Proofs.Application.Paths

/-!
# What faults leave in the records

Whoever reads the records can tell the operator's errors from the callers'. A request that ends in a
fault leaves exactly one record that says whose error it was, and nothing else does. On the way
there are other records, but they name nobody, and none of them is grave unless the request ends in
an error of the operator.

- `Log.Record.kind?`: whose error a record is about.
- `Logged.Discreet`: a computation says nothing about that on its way; `Logged.Discreet.bind` and
  its neighbours put such computations together.
- `Application.respond_discreet`: the way to a response is discreet.
- `Application.Recorded`: what a request leaves in the records.
-/

namespace WebhookRelay

namespace Log

/-- Whose error a record is about, if it says so. -/
def Record.kind? (record : Record) : Option Json := record.extra.lookup "error_kind"

/-- Is a record about an error, or about more than that? -/
def Level.IsGrave (level : Level) : Prop := Level.error.severity ≤ level.severity

instance (level : Level) : Decidable level.IsGrave := Nat.decLe ..

end Log

/-! ## Computations that name nobody -/

namespace Logged

variable {α β : Type}

/-- A computation names nobody in its records, and says something grave only if it ends in a fault
of the operator. -/
structure Discreet (x : Logged Failure α) : Prop where
  nobody : ∀ record ∈ x.records, record.kind? = none
  grave : ∀ record ∈ x.records, record.level.IsGrave → ∃ f, x.result = .error (.config f)

namespace Discreet

/-- A computation that says nothing is discreet. -/
theorem of_nil {x : Logged Failure α} (h : x.records = []) : x.Discreet := by
  constructor
  all_goals
    rw [h]
    exact fun _ hmem => absurd hmem List.not_mem_nil

theorem pure (a : α) : (Pure.pure a : Logged Failure α).Discreet := of_nil rfl

theorem of (result : Except Failure α) : (Logged.of result).Discreet := of_nil rfl

theorem fail (e : Failure) : (Logged.fail e : Logged Failure α).Discreet := of_nil rfl

/-- A record without further entries names nobody, and may be left if it is not grave. -/
theorem say {level : Log.Level} (hlevel : ¬ level.IsGrave) (logger message : String) :
    (Logged.say level logger message [] : Logged Failure Unit).Discreet where
  nobody record hmem := by
    obtain rfl := List.mem_singleton.mp hmem
    rfl
  grave record hmem h := by
    obtain rfl := List.mem_singleton.mp hmem
    exact absurd h hlevel

/-- A grave record may be left on the way to a fault of the operator. -/
theorem complain (level : Log.Level) (logger message : String) (f : ConfigFault) :
    (do Logged.say level logger message []; Logged.fail (.config f) :
      Logged Failure α).Discreet where
  nobody record hmem := by
    obtain rfl := List.mem_singleton.mp hmem
    rfl
  grave _ _ _ := ⟨f, rfl⟩

/-- Discreet computations make a discreet one. Something grave in the first part has ended it. -/
theorem bind {x : Logged Failure α} {f : α → Logged Failure β} (hx : x.Discreet)
    (hf : ∀ a, (f a).Discreet) : (x >>= f).Discreet where
  nobody record hmem := by
    obtain hmem | ⟨a, -, hmem⟩ := mem_records_bind_iff.mp hmem
    · exact hx.nobody record hmem
    · exact (hf a).nobody record hmem
  grave record hmem h := by
    obtain hmem | ⟨a, ha, hmem⟩ := mem_records_bind_iff.mp hmem
    · obtain ⟨cause, hcause⟩ := hx.grave record hmem h
      exact ⟨cause, result_bind_of_error hcause f⟩
    · obtain ⟨cause, hcause⟩ := (hf a).grave record hmem h
      exact ⟨cause, (result_bind_of_ok ha f).trans hcause⟩

/-- An error may be put another way as long as the operator's stay the operator's. -/
theorem mapError {x : Logged Failure α} (hx : x.Discreet) {g : Failure → Failure}
    (hg : ∀ f, ∃ f', g (.config f) = .config f') : (x.mapError g).Discreet where
  nobody := hx.nobody
  grave record hmem h := by
    obtain ⟨cause, hcause⟩ := hx.grave record hmem h
    obtain ⟨cause', hcause'⟩ := hg cause
    refine ⟨cause', ?_⟩
    rw [result_mapError, hcause, ← hcause']
    rfl

end Discreet

end Logged

open Logged (Discreet)

/-! ## The parts of a response -/

/-- A query complains only about itself. -/
theorem Query.findValues_discreet (expression : String) (document : Json) :
    (findValues expression document).Discreet := by
  refine .bind (.of _) fun path => ?_
  split
  · exact .pure _
  · exact .complain ..
  · exact .fail _

/-- A predicate that does not apply to a document is no error. -/
theorem Query.hasMatch_discreet (expression : String) (document : Json) :
    (hasMatch expression document).Discreet := by
  refine .bind (.of _) fun path => ?_
  split
  · exact .pure _
  · exact .bind (.say (by decide) _ _) fun _ => .pure _
  · exact .fail _

namespace Template

theorem substitution_discreet (expression : String) (document : Json) :
    (substitution expression document).Discreet := by
  unfold substitution
  split
  · exact .pure _
  · exact .bind (Query.findValues_discreet expression document) fun _ => .of _

theorem renderSpan_discreet (template : String) (document : Json) (done : Evaluated)
    (span : Span) : (renderSpan template document done span).Discreet := by
  cases span with
  | literal s => exact .pure _
  | placeholder e =>
    unfold renderSpan
    dsimp only
    split
    · exact .pure _
    · refine .bind ((substitution_discreet e document).mapError fun f => ?_) fun _ => .pure _
      exact ⟨.template template f, rfl⟩

theorem renderSpans_discreet (template : String) (document : Json) (done : Evaluated)
    (spans : List Span) : (renderSpans template document done spans).Discreet := by
  induction spans generalizing done with
  | nil => exact .pure _
  | cons span rest ih =>
    exact .bind (renderSpan_discreet template document done span) fun (_, done) =>
      .bind (ih done) fun _ => .pure _

theorem render_discreet (template : String) (document : Json) :
    (render template document).Discreet :=
  renderSpans_discreet template document [] _

end Template

theorem Match.of_discreet (predicate : Option String) (document : Json) :
    (Match.of predicate document).Discreet := by
  cases predicate with
  | none => exact .pure _
  | some expression => exact .bind (Query.hasMatch_discreet expression document) fun _ => .pure _

theorem decide_discreet (c : MatchConfig) (event : Event) (document : Json) :
    (decide c event document).Discreet :=
  .bind (Match.of_discreet _ document) fun _ => .bind (.say (by decide) _ _) fun _ => .pure _

theorem content_discreet (s : Settings) (document : Json) (body : ByteArray) :
    (content s document body).Discreet := by
  unfold content
  split
  · refine .bind ?_ fun _ => .pure _
    refine .bind (Template.render_discreet s.msTeamsSummaryTemplate document) fun _ => ?_
    refine .bind (Template.render_discreet s.msTeamsTitleTemplate document) fun _ => ?_
    refine .bind (Template.render_discreet s.msTeamsSubtitleTemplate document) fun _ => ?_
    exact .bind (Template.render_discreet s.msTeamsActionTemplateUrl document) fun _ => .pure _
  · exact .pure _

theorem plan_discreet [Platform] (s : Settings) (r : Request) : (plan s r).Discreet := by
  refine .bind (.of _) fun (event, text) => ?_
  refine .bind (.of _) fun _ => .bind (.of _) fun document => .bind (.of _) fun path => ?_
  refine .bind (.say (by decide) _ _) fun _ => ?_
  refine .bind (decide_discreet s.matchConfig event document) fun action => ?_
  cases action with
  | drop => exact .pure _
  | relay => exact .bind (content_discreet s document r.body) fun _ => .pure _

/-- A target that does not answer is warned of, but not yet complained about. -/
theorem Ending.outcome_discreet (ending : Ending) (url : String) :
    (ending.outcome url).Discreet := by
  cases ending with
  | replied reply =>
    cases reply with
    | response t => exact .bind (.say (by decide) _ _) fun _ => .pure _
    | failure kind message => exact .bind (.say (by decide) _ _) fun _ => .fail _
    | broken => exact .fail _
  | callerGone => exact .bind (.say (by decide) _ _) fun _ => .fail _
  | pollFailed | interrupted => exact .fail _

theorem deliver_discreet (request : Outbound) (schedule : Schedule) :
    (deliverUnlessDisconnected request schedule).outcome.Discreet := by
  unfold deliverUnlessDisconnected
  split
  · exact Ending.outcome_discreet ..
  · exact .fail _

/-! ## The way to a response -/

/-- A record about this error, as grave as this. -/
def Log.Record.IsAbout (record : Log.Record) (kind : String) (level : Log.Level) : Prop :=
  record.kind? = some (.string kind) ∧ record.level = level

/-- A record says whose error a fault is. -/
structure Blames (record : Log.Record) (f : Fault) : Prop where
  operator : record.IsAbout "operator_misconfiguration" .error ↔ ∃ cause, f = .config cause
  target : record.IsAbout "relay" .error ↔ ∃ reason, f = .relay reason
  signature : record.IsAbout "caller" .warning ↔ f = .auth
  malformed : record.IsAbout "caller" .info ↔ ∃ cause, f = .request cause

/-- Is a fault an error of the caller? -/
def Fault.IsCallers (f : Fault) : Prop := f = .auth ∨ ∃ cause, f = .request cause

namespace Application

variable {s : Settings} {schedule : Schedule} {generated : String} {r : Request}

/-- The record of a fault. -/
def faultRecord (path : String) (r : Request) (id : String) (f : Fault) : Log.Record :=
  ⟨f.report.2.1, faultLogger, f.report.2.2,
    [("path", .string path), ("method", .string r.method), ("trace_id", .string id),
      ("error_code", .string f.code), ("error_kind", .string f.report.1)]⟩

/-- The record of a fault says whose error it is. -/
theorem faultRecord_blames (path : String) (r : Request) (id : String) (f : Fault) :
    Blames (faultRecord path r id f) f := by
  have habout : ∀ kind level, (faultRecord path r id f).IsAbout kind level ↔
      f.report.1 = kind ∧ f.report.2.1 = level := by
    intro kind level
    have hkind : (faultRecord path r id f).kind? = some (.string f.report.1) := rfl
    rw [Log.Record.IsAbout, hkind]
    simp only [Option.some.injEq, Json.string.injEq]
    rfl
  constructor
  all_goals
    rw [habout]
    cases f
    all_goals simp [Fault.report]

/-- A request that is routed to deliveries and whose host can be read has an address. -/
theorem exists_addressPath_of_delivery (hroute : r.route = .delivery)
    (hhost : Host.isReadable r.hostText = true) : ∃ path, r.addressPath = .ok path := by
  have hpath : isDeliveryPath r.path = true := by
    unfold Request.route at hroute
    split at hroute
    · cases hroute
    · split at hroute
      · cases hroute
      · split at hroute
        · assumption
        · split at hroute <;> cases hroute
  exact exists_addressPath (r := r) (isDeliveryPath_iff.mp hpath) hhost

section Handling

variable [Platform]

/-- The response to a delivery is planned, and then it waits for the target if need be. -/
theorem respondToDelivery_eq_bind (s : Settings) (schedule : Schedule) (r : Request) :
    (respondToDelivery s schedule r).2 = plan s r >>= fun
      | .drop => pure .dropped
      | .relay request =>
        (deliverUnlessDisconnected request schedule).outcome >>= fun t =>
          .of (Response.relayed t) := by
  show _ = Logged.bind (plan s r) _
  unfold respondToDelivery Logged.bind
  dsimp only
  cases (plan s r).result with
  | error e => rfl
  | ok p =>
    cases p with
    | drop => exact congrArg (Logged.mk · _) (List.append_nil _).symm
    | relay request =>
      show Logged.bind _ _ = Logged.mk (_ ++ (Logged.bind _ _).records) (Logged.bind _ _).result
      unfold Logged.bind
      dsimp only
      cases (deliverUnlessDisconnected request schedule).outcome.result with
      | error e => rfl
      | ok t => exact congrArg (Logged.mk · _) (List.append_assoc ..)

/-- The way to a response is discreet. -/
theorem respond_discreet (s : Settings) (schedule : Schedule) (r : Request) :
    (respond s schedule r).2.Discreet := by
  unfold respond
  cases r.route with
  | delivery =>
    show (respondToDelivery s schedule r).2.Discreet
    rw [respondToDelivery_eq_bind]
    refine .bind (plan_discreet s r) fun p => ?_
    cases p with
    | drop => exact .pure _
    | relay request => exact .bind (deliver_discreet request schedule) fun _ => .of _
  | documentation _ | health | elsewhere _ | nowhere => exact .pure _

/-- A request ends in a fault. -/
def EndsIn (s : Settings) (schedule : Schedule) (r : Request) (f : Fault) : Prop :=
  (respond s schedule r).2.result = .error (.fault f)

/-! ## What is left in the records -/

/-- Only deliveries end in faults. -/
theorem EndsIn.route {f : Fault} (h : EndsIn s schedule r f) : r.route = .delivery := by
  unfold EndsIn respond at h
  cases hroute : r.route with
  | delivery => rfl
  | documentation _ | health | elsewhere _ | nowhere =>
    rw [hroute] at h
    cases h

/-- A fault is recorded after what was said before it. -/
theorem records_of_fault {f : Fault} {path : String} (hpath : r.addressPath = .ok path)
    (h : EndsIn s schedule r f) :
    (handle s schedule generated r).records =
      (respond s schedule r).2.records ++ [faultRecord path r (r.traceId generated) f] := by
  have hanswer : answerFault r (r.traceId generated) f =
      ⟨[faultRecord path r (r.traceId generated) f], .ok (.ofFault f)⟩ := by
    unfold answerFault
    rw [hpath]
    rfl
  unfold EndsIn at h
  simp only [handle, h, hanswer]

/-- Without a fault nothing is said after the way to the response. -/
theorem records_of_no_fault (h : ∀ f, ¬ EndsIn s schedule r f) :
    (handle s schedule generated r).records = (respond s schedule r).2.records := by
  unfold handle
  dsimp only
  split
  case h_1 f hf => exact absurd hf (h f)
  case h_2 => rfl

/-- Nothing in the records is about an error. -/
def Untroubled (h : Handled) : Prop :=
  ∀ record ∈ h.records, record.kind? = none ∧ ¬ record.level.IsGrave

/-- Without a fault nothing in the records is about an error. -/
theorem untroubled_of_no_fault (h : ∀ f, ¬ EndsIn s schedule r f) :
    Untroubled (handle s schedule generated r) := by
  have hdiscreet := respond_discreet s schedule r
  intro record hmem
  rw [records_of_no_fault h] at hmem
  refine ⟨hdiscreet.nobody record hmem, fun hgrave => ?_⟩
  obtain ⟨cause, hcause⟩ := hdiscreet.grave record hmem hgrave
  exact h _ hcause

/-- What a request leaves in the records. -/
structure Recorded (s : Settings) (schedule : Schedule) (generated : String) (r : Request)
    (h : Handled) : Prop where
  /-- A fault is what the response is made from, and exactly one record says whose error it was,
  under the only identity in the response. -/
  fault : ∀ f, EndsIn s schedule r f →
    h.response = (Response.ofFault f).withTraceId (r.traceId generated) ∧
      ∃ record id, h.records.filter (·.kind?.isSome) = [record] ∧ Blames record f ∧
        record.extra.lookup "trace_id" = some (.string id) ∧ h.response.traceIds = [id]
  /-- If it is an error of the caller, no record is grave. -/
  callers : ∀ f, EndsIn s schedule r f → f.IsCallers →
    ∀ record ∈ h.records, ¬ record.level.IsGrave
  /-- A method that deliveries do not have is such an error. -/
  method : r.route = .delivery → r.method ≠ "POST" → EndsIn s schedule r (.request .method)
  /-- Any other response, a drop and that of the target among them, leaves no record of an error. -/
  answer : ∀ response, (respond s schedule r).2.result = .ok response →
    h.response = response.withTraceId (r.traceId generated) ∧ Untroubled h
  /-- Neither does a crash. -/
  crash : ∀ c, (respond s schedule r).2.result = .error (.crash c) →
    h.response = .unhandled ∧ Untroubled h

/-- **Records tell the operator's errors from the callers'**, whatever the settings, the target and
the request are, as long as the host of the request can be read. -/
theorem handle_recorded (s : Settings) (schedule : Schedule) (generated : String) (r : Request)
    (hhost : Host.isReadable r.hostText = true) :
    Recorded s schedule generated r (handle s schedule generated r) where
  fault f h := by
    obtain ⟨path, hpath⟩ := exists_addressPath_of_delivery h.route hhost
    have hresponse : (handle s schedule generated r).response =
        (Response.ofFault f).withTraceId (r.traceId generated) := response_of_fault hpath h
    refine ⟨hresponse, faultRecord path r (r.traceId generated) f, r.traceId generated, ?_,
      faultRecord_blames .., rfl, ?_⟩
    · -- What was said before names nobody.
      have hbefore : (respond s schedule r).2.records.filter (·.kind?.isSome) = [] := by
        refine List.filter_eq_nil_iff.mpr fun record hmem => ?_
        rw [(respond_discreet s schedule r).nobody record hmem]
        exact Bool.false_ne_true
      rw [records_of_fault hpath h, List.filter_append, hbefore]
      rfl
    · rw [hresponse, traceIds_withTraceId (plain_ofFault f)]
  callers f h hf record hmem hgrave := by
    obtain ⟨path, hpath⟩ := exists_addressPath_of_delivery h.route hhost
    rw [records_of_fault hpath h] at hmem
    obtain hmem | hmem := List.mem_append.mp hmem
    · obtain ⟨cause, hcause⟩ := (respond_discreet s schedule r).grave record hmem hgrave
      rw [EndsIn, hcause] at h
      obtain rfl | ⟨cause', rfl⟩ := hf <;> cases h
    · obtain rfl := List.mem_singleton.mp hmem
      obtain rfl | ⟨cause, rfl⟩ := hf
      · exact absurd hgrave (by decide : ¬ Log.Level.warning.IsGrave)
      · exact absurd hgrave (by decide : ¬ Log.Level.info.IsGrave)
  method hroute hmethod := by
    rw [EndsIn, respond_of_delivery hroute,
      respondToDelivery_of_error schedule (plan_of_method hmethod)]
  answer response h := by
    refine ⟨response_of_ok h, untroubled_of_no_fault fun f hf => ?_⟩
    rw [EndsIn, h] at hf
    cases hf
  crash c h := by
    refine ⟨response_of_crash h, untroubled_of_no_fault fun f hf => ?_⟩
    rw [EndsIn, h] at hf
    cases hf

end Handling

attribute [local instance] Platform.bare

/-- A request with a method that nothing listens to: the caller is blamed for it, once. -/
theorem handle_recorded_of_propfind :
    Host.isReadable
        (Request.mk "PROPFIND" "/hooks" [("host", "relay")] .empty).hostText = true ∧
      ∃ record, (handle {} .unasked "id" ⟨"PROPFIND", "/hooks", [("host", "relay")],
          .empty⟩).records.filter (·.kind?.isSome) = [record] ∧
        record.IsAbout "caller" .info := by
  have hhost : Host.isReadable
      (Request.mk "PROPFIND" "/hooks" [("host", "relay")] .empty).hostText = true := by
    decide +kernel
  have hrecorded := handle_recorded {} .unasked "id"
    ⟨"PROPFIND", "/hooks", [("host", "relay")], .empty⟩ hhost
  obtain ⟨-, record, id, hone, hblames, -⟩ := hrecorded.fault _
    (hrecorded.method (by decide +kernel) (by decide))
  exact ⟨hhost, record, hone, hblames.malformed.mpr ⟨_, rfl⟩⟩

end Application

end WebhookRelay
