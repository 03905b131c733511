import WebhookRelay.Proofs.Application.Authentication
import WebhookRelay.Proofs.Text.LowerCase

/-!
# The identity of a request in its response

Every response that is composed carries the identity of its request, and no other: not even that of
the target's own response. A response is composed unless the handling crashes, and every way in
which it can crash is listed. A crash is answered from outside, where identities are not put on.
Bodies that escape half of a surrogate pair alone are left out, since no text holds what they mean.

- `Response.traceIds`: the identities that a response carries.
- `traceIds_withTraceId`: putting on an identity replaces every other one.
- `Unreadable`: the bodies that cannot be read and are not refused either.
- `Crashes`: the ways in which the handling of a request can crash.
- `Application.composed_or_crashes`: it crashes in one of these ways, or a response is composed.
- `Application.Identified`: how a request, its identity and its response belong together.
-/

namespace WebhookRelay

/-! ## Identities -/

/-- The identities that a response carries, whatever the letter case of the header's name. -/
def Response.traceIds (r : Response) : List String :=
  (r.headers.filter fun h => Text.lower h.1 == "x-trace-id").map Prod.snd

/-- The name of the header for identities is only spelled in lower case, if at all. -/
def Headers.Plain (hs : Headers) : Prop :=
  ∀ h ∈ hs, Text.lower h.1 = "x-trace-id" → h.1 = "x-trace-id"

/-- The identity that is put on a response replaces every other one. -/
theorem traceIds_withTraceId {r : Response} (h : Headers.Plain r.headers) (id : String) :
    (r.withTraceId id).traceIds = [id] := by
  have hothers : (r.headers.filter (·.1 != "x-trace-id")).filter
      (fun h => Text.lower h.1 == "x-trace-id") = [] := by
    refine List.filter_eq_nil_iff.mpr fun entry hentry hname => ?_
    obtain ⟨hmem, hne⟩ := List.mem_filter.mp hentry
    exact bne_iff_ne.mp hne (h entry hmem (beq_iff_eq.mp hname))
  have hname : (Text.lower "x-trace-id" == "x-trace-id") = true := by decide +kernel
  unfold Response.traceIds Response.withTraceId
  simp only [List.filter_append, hothers, List.nil_append, List.filter_cons, hname, if_true,
    List.filter_nil, List.map_cons, List.map_nil]

/-- A request keeps an identity of its own. -/
theorem traceId_of_own {r : Request} {id : String} (generated : String)
    (h : r.headers.first? "x-trace-id" = some id) (hid : id ≠ "") : r.traceId generated = id := by
  have hempty : id.isEmpty = false := by simpa using hid
  unfold Request.traceId
  rw [h]
  simp only [hempty, Bool.false_eq_true, if_false]

/-- One without an identity gets the generated one. -/
theorem traceId_of_none {r : Request} (generated : String)
    (h : ∀ id, r.headers.first? "x-trace-id" = some id → id = "") :
    r.traceId generated = generated := by
  unfold Request.traceId
  cases hfirst : r.headers.first? "x-trace-id" with
  | none => rfl
  | some id =>
    obtain rfl := h id hfirst
    rfl

/-! ### Headers of responses -/

namespace Headers

/-- Names are joined in lower case. -/
theorem exists_lower_of_mem_joined {hs : Headers} {h : String × String} (hmem : h ∈ joined hs) :
    ∃ name, h.1 = Text.lower name := by
  -- That holds of all headers that have been joined so far.
  suffices hall : ∀ (rest done : Headers), (∀ h ∈ done, ∃ name, h.1 = Text.lower name) →
      ∀ h ∈ rest.foldl join done, ∃ name, h.1 = Text.lower name from
    hall hs [] (fun _ hmem => absurd hmem List.not_mem_nil) h hmem
  intro rest
  induction rest with
  | nil => exact fun done hdone => hdone
  | cons x rest ih =>
    intro done hdone
    refine ih (join done x) fun h hmem => ?_
    obtain rfl | hmem := Dictionary.mem_put hmem
    · exact ⟨x.1, rfl⟩
    · exact hdone h hmem

/-- So they are in the headers that are sent back. -/
theorem plain_passThrough (hs : Headers) : (passThrough hs).Plain := by
  intro h hmem hname
  obtain ⟨name, hlower⟩ := exists_lower_of_mem_joined (List.mem_filter.mp hmem).1
  rw [hlower] at hname ⊢
  have hascii : ∀ c ∈ (Text.lower (Text.lower name)).toList, c.toNat < 0x80 := by
    rw [hname]
    simp
  rw [← Text.lower_lower hascii, hname]

/-- Headers are plain if they are one by one. -/
theorem plain_append {hs more : Headers} (h : hs.Plain) (hmore : more.Plain) :
    Headers.Plain (hs ++ more) := by
  intro entry hmem
  obtain hmem | hmem := List.mem_append.mp hmem
  · exact h entry hmem
  · exact hmore entry hmem

/-- The names of the headers that the relay puts on a response itself, besides the identity. -/
def ownNames : List String := ["allow", "content-length", "content-type", "location"]

/-- These headers are plain. -/
theorem plain_own {name : String} (value : String) (h : name ∈ ownNames) :
    Headers.Plain [(name, value)] := by
  have hothers : ∀ n ∈ ownNames, Text.lower n ≠ "x-trace-id" := by decide +kernel
  intro entry hmem hname
  obtain rfl := List.mem_singleton.mp hmem
  exact absurd hname (hothers name h)

end Headers

/-- The length of a response is in a plain header. -/
theorem plain_withLength {status : Nat} {headers : Headers} (h : headers.Plain)
    (body : ByteArray) : (Response.withLength status headers body).headers.Plain := by
  refine Headers.plain_append h ?_
  split
  · exact fun _ hmem => absurd hmem List.not_mem_nil
  · exact Headers.plain_own _ (by decide)

/-- A text is answered with plain headers. -/
theorem plain_text {headers : Headers} (h : headers.Plain) (status : Nat) (text : String) :
    (Response.text status text headers).headers.Plain :=
  plain_withLength
    (Headers.plain_append (Headers.plain_own "text/plain; charset=utf-8" (by decide)) h) _

/-- A fault is answered with plain headers. -/
theorem plain_ofFault (f : Fault) : (Response.ofFault f).headers.Plain := by
  refine plain_text ?_ _ _
  split
  · exact Headers.plain_own _ (by decide)
  · exact fun _ hmem => absurd hmem List.not_mem_nil

section Handling

variable [Platform]

/-! ## Bodies -/

/-- A body can neither be read nor be refused: it is nested too deep, or the first problem in it is
an integer with too many digits. -/
def Unreadable (text : String) : Prop :=
  Platform.room text < Json.depth text ∨
    ∃ e, Json.read text = .error e ∧ e.problem = .overlongInteger

/-- Such a body makes the handling crash. -/
theorem Unreadable.readBody {text : String} (h : Unreadable text) :
    ∃ c, readBody text = .error (.crash c) := by
  unfold WebhookRelay.readBody
  split
  case isFalse => exact ⟨_, rfl⟩
  case isTrue hroom =>
    obtain hdeep | ⟨e, hread, hproblem⟩ := h
    · exact absurd hroom (Nat.not_le.mpr hdeep)
    · refine ⟨.overlongInteger, ?_⟩
      rw [hread, Except.mapError, failureOfBody, if_pos hproblem]

/-- Any other body is read or refused. -/
theorem readBody_cases (text : String) :
    (∃ document, readBody text = .ok document) ∨
      (∃ f, readBody text = .error (.fault f)) ∨ Unreadable text := by
  unfold readBody
  split
  case isFalse hroom => exact .inr (.inr (.inl (Nat.not_le.mp hroom)))
  case isTrue =>
    cases hread : Json.read text with
    | ok document => exact .inl ⟨document, rfl⟩
    | error e =>
      by_cases hproblem : e.problem = .overlongInteger
      · exact .inr (.inr (.inr ⟨e, hread, hproblem⟩))
      · refine .inr (.inl ⟨.request (.bodyJson e), ?_⟩)
        rw [Except.mapError, failureOfBody, if_neg hproblem]

/-- Does the body of a request escape half of a surrogate pair without the other half? -/
def Request.hasLoneSurrogate (r : Request) : Bool :=
  (String.fromUTF8? r.body).any Json.hasLoneSurrogate

/-! ## Crashes -/

/-- The ways in which the handling of a request can crash. -/
inductive Crashes (s : Settings) (schedule : Schedule) (r : Request) : Prop where
  /-- Its address cannot be read. -/
  | address {e : Failure} (hroute : r.route = .delivery) (h : r.addressPath = .error e)
  /-- It passes all checks, but its body can neither be read nor be refused. -/
  | body {text : String} (hroute : r.route = .delivery) (hpassed : ∀ c : Check, c.Passed s r)
    (htext : String.fromUTF8? r.body = some text) (h : Unreadable text)
  /-- The predicate crashes on its document. -/
  | predicate {event : Event} {document : Json} {c : Crash} (hd : r.Delivers s event document)
    (h : (decide s.matchConfig event document).result = .error (.crash c))
  /-- A template crashes on its document. -/
  | template {event : Event} {document : Json} {c : Crash} (hd : r.Delivers s event document)
    (hrelays : Relays s.matchConfig event document)
    (h : (content s document r.body).result = .error (.crash c))
  /-- The headers of its call cannot be sent. -/
  | sending {event : Event} {document : Json} {call : Outbound}
    (hcall : Authorized s r event document call) (h : call.headers.isAscii = false)
  /-- Its call fails in a way that calls are not expected to fail. -/
  | calling {event : Event} {document : Json} {call : Outbound}
    (hcall : Authorized s r event document call) (hascii : call.headers.isAscii = true)
    (h : schedule.watch.ending = .replied .broken)
  /-- The waiting for the target is not finished. -/
  | waiting {event : Event} {document : Json} {call : Outbound}
    (hcall : Authorized s r event document call) (hascii : call.headers.isAscii = true)
    (h : schedule.watch.ending.isUnfinished = true)
  /-- The headers of the target's response cannot be written. -/
  | answering {event : Event} {document : Json} {call : Outbound} {t : TargetResponse}
    (hcall : Authorized s r event document call) (hascii : call.headers.isAscii = true)
    (hending : schedule.watch.ending = .replied (.response t))
    (h : (Headers.passThrough t.headers).isLatin = false)

variable {s : Settings} {schedule : Schedule} {r : Request} {path : String}

/-- If the body of a request that passes all checks is not read, nothing is planned. -/
theorem plan_of_readBody_error {text : String} {e : Failure} (hpassed : ∀ c : Check, c.Passed s r)
    (htext : String.fromUTF8? r.body = some text) (h : readBody text = .error e) :
    (plan s r).result = .error e := by
  obtain ⟨event, text', hform⟩ := checkForm_of_passed fun c _ => hpassed c
  obtain rfl : text' = text :=
    Option.some.inj ((checkForm_eq_ok_iff.mp hform).2.2.2.symm.trans htext)
  unfold plan
  rw [Logged.result_bind_of_ok hform]
  dsimp only
  rw [Logged.result_bind_of_ok (checkSignature_eq_ok_iff.mpr (hpassed .signature)), h,
    Logged.of_error_bind]

/-- Either a check fails, or a document is delivered, unless the body makes the handling crash. -/
theorem fault_or_delivers_or_crashes (s : Settings) (schedule : Schedule)
    (hroute : r.route = .delivery) (hpath : r.addressPath = .ok path) :
    (∃ f, (plan s r).result = .error (.fault f)) ∨
      (∃ event document, r.Delivers s event document) ∨ Crashes s schedule r := by
  by_cases hpassed : ∀ b ∈ Check.signature.earlier, b.Passed s r
  case neg =>
    obtain ⟨c, hc, hfails⟩ := Check.exists_failsFirst hpassed
    refine .inl ⟨c.fault r, ?_⟩
    unfold plan
    rw [checkForm_of_failsFirst hfails hc, Logged.of_error_bind]
  by_cases hsignature : Check.signature.Passed s r
  case neg =>
    by_cases hsecret : s.secretToken = ""
    · exact .inl ⟨_, congrArg _ (plan_of_checkSignature hpassed (checkSignature_of_empty hsecret))⟩
    · exact .inl ⟨_, congrArg _
        (plan_of_checkSignature hpassed (checkSignature_of_failed hsecret hsignature))⟩
  have hall : ∀ c : Check, c.Passed s r := by
    intro c
    cases c with
    | signature => exact hsignature
    | method | mediaType | eventName | bodyText => exact hpassed _ (by decide)
  obtain ⟨event, text, hform⟩ := checkForm_of_passed hpassed
  obtain ⟨hmethod, hmedia, hevent, htext⟩ := checkForm_eq_ok_iff.mp hform
  obtain ⟨document, hbody⟩ | ⟨f, hbody⟩ | hbody := readBody_cases text
  · exact .inr (.inl ⟨event, document, hroute, hmethod, hmedia, hevent,
      Signature.ne_empty_of_verify_eq_ok hsignature, hsignature,
      ⟨text, htext, readBody_eq_ok_iff.mp hbody⟩, path, hpath⟩)
  · exact .inl ⟨f, plan_of_readBody_error hall htext hbody⟩
  · exact .inr (.inr (.body hroute hall htext hbody))

namespace Application

variable {generated : String}

/-- A response with plain headers is composed for a request, and it carries the identity. -/
def Composed (s : Settings) (schedule : Schedule) (generated : String) (r : Request) : Prop :=
  ∃ response : Response, response.headers.Plain ∧
    (handle s schedule generated r).response = response.withTraceId (r.traceId generated)

/-- One that comes about without a call is composed if its headers are plain. -/
theorem composed_of_respond (response : Response) (hplain : response.headers.Plain)
    (h : respond s schedule r = ([], return response)) : Composed s schedule generated r :=
  ⟨response, hplain, (handle_of_respond generated h).1⟩

/-- For a fault a response is composed if the address of the request can be read. -/
theorem composed_of_plan_fault {f : Fault} (hroute : r.route = .delivery)
    (hpath : r.addressPath = .ok path) (h : (plan s r).result = .error (.fault f)) :
    Composed s schedule generated r :=
  ⟨.ofFault f, plain_ofFault f, (handle_of_plan_fault hroute hpath h).1⟩

/-- What becomes of a call that is made. -/
theorem composed_or_crashes_of_authorized {event : Event} {document : Json} {call : Outbound}
    (h : Authorized s r event document call) :
    Composed s schedule generated r ∨ Crashes s schedule r := by
  by_cases hascii : call.headers.isAscii = true
  case neg => exact .inr (.sending h (Bool.eq_false_iff.mpr hascii))
  obtain ⟨t, hending⟩ | ⟨reason, hending⟩ | hending | hending := schedule.watch.ending.cases
  · by_cases hlatin : (Headers.passThrough t.headers).isLatin = true
    · exact .inl ⟨_, plain_withLength (Headers.plain_passThrough t.headers) _,
        response_of_answer h hascii hending hlatin⟩
    · exact .inr (.answering h hascii hending (Bool.eq_false_iff.mpr hlatin))
  · exact .inl ⟨_, plain_ofFault _, response_of_refusal h hascii hending⟩
  · exact .inr (.calling h hascii hending)
  · exact .inr (.waiting h hascii hending)

/-- What becomes of a document that is delivered. -/
theorem composed_or_crashes_of_delivers {event : Event} {document : Json}
    (hd : r.Delivers s event document) :
    Composed s schedule generated r ∨ Crashes s schedule r := by
  obtain ⟨path, hpath⟩ := hd.address
  have hplan := plan_result hd
  cases hdecide : (decide s.matchConfig event document).result with
  | error e =>
    rw [hdecide] at hplan
    cases e with
    | fault f => exact .inl (composed_of_plan_fault hd.route hpath hplan)
    | crash c => exact .inr (.predicate hd hdecide)
  | ok action =>
    rw [hdecide] at hplan
    cases action with
    | drop =>
      exact .inl ⟨.dropped, plain_text (fun _ hmem => absurd hmem List.not_mem_nil) _ _,
        (handle_of_plan_drop hd.route hplan).1⟩
    | relay =>
      have hrelays := decide_eq_relay_iff.mp hdecide
      cases hcontent : (content s document r.body).result with
      | ok body =>
        exact composed_or_crashes_of_authorized (.of_content hd hrelays hcontent)
      | error e =>
        have hnone := plan_of_content_error hd hrelays hcontent
        cases e with
        | fault f => exact .inl (composed_of_plan_fault hd.route hpath hnone)
        | crash c => exact .inr (.template hd hrelays hcontent)

/-- Every request is answered with a composed response, unless its handling crashes in one of the
listed ways. -/
theorem composed_or_crashes (s : Settings) (schedule : Schedule) (generated : String)
    (r : Request) : Composed s schedule generated r ∨ Crashes s schedule r := by
  cases hroute : r.route with
  | documentation page =>
    refine .inl (composed_of_respond (.documentation page) ?_ ?_)
    · exact plain_withLength (Headers.plain_own _ (by decide)) _
    · rw [respond, hroute]
  | health =>
    refine .inl (composed_of_respond .health ?_ ?_)
    · exact plain_withLength (Headers.plain_own _ (by decide)) _
    · rw [respond, hroute]
  | elsewhere other =>
    refine .inl (composed_of_respond (.elsewhere r other) ?_ ?_)
    · exact plain_withLength (Headers.plain_own _ (by decide)) _
    · rw [respond, hroute]
  | nowhere =>
    refine .inl (composed_of_respond .notFound ?_ ?_)
    · exact plain_withLength (Headers.plain_own _ (by decide)) _
    · rw [respond, hroute]
  | delivery =>
    cases hpath : r.addressPath with
    | error e => exact .inr (.address hroute hpath)
    | ok path =>
      obtain ⟨f, hplan⟩ | ⟨event, document, hd⟩ | hcrashes :=
        fault_or_delivers_or_crashes s schedule hroute hpath
      · exact .inl (composed_of_plan_fault hroute hpath hplan)
      · exact composed_or_crashes_of_delivers hd
      · exact .inr hcrashes

/-- If the handling crashes, the request is not answered. -/
theorem response_of_crashes (h : Crashes s schedule r) :
    (handle s schedule generated r).response = .unhandled := by
  cases h with
  | address hroute haddress =>
    cases hplan : (plan s r).result with
    | ok p =>
      -- Something is planned only if the address can be read.
      obtain ⟨_, _, hd⟩ := delivers_of_plan hroute hplan
      obtain ⟨path, hpath⟩ := hd.address
      rw [hpath] at haddress
      cases haddress
    | error e =>
      cases e with
      | crash c => exact (handle_of_plan_crash hroute hplan).1
      | fault f =>
        refine response_of_fault_of_address haddress (f := f) ?_
        rw [respond_of_delivery hroute, respondToDelivery_of_error schedule hplan]
  | body hroute hpassed htext hbody =>
    obtain ⟨c, hc⟩ := hbody.readBody
    exact (handle_of_plan_crash hroute (plan_of_readBody_error hpassed htext hc)).1
  | predicate hd hdecide =>
    exact (handle_of_plan_crash hd.route (plan_of_decide_error hd hdecide)).1
  | template hd hrelays hcontent =>
    exact (handle_of_plan_crash hd.route (plan_of_content_error hd hrelays hcontent)).1
  | sending hcall hascii => exact response_of_unsendable hcall hascii
  | calling hcall hascii hending => exact response_of_broken hcall hascii hending
  | waiting hcall hascii hending => exact response_of_unfinished hcall hascii hending
  | answering hcall hascii hending hlatin =>
    exact response_of_unreadable hcall hascii hending hlatin

/-! ## Identities in responses -/

/-- How a request, its identity and its response belong together. -/
structure Identified (s : Settings) (a : Arrival) (h : Handled) : Prop where
  /-- The identity of the request, if it has one, is the only one in its response. -/
  own : ¬ Crashes s a.schedule a.request → ∀ id, a.request.headers.first? "x-trace-id" = some id →
    id ≠ "" → h.response.traceIds = [id]
  /-- Otherwise that is the generated one. -/
  generated : ¬ Crashes s a.schedule a.request →
    (∀ id, a.request.headers.first? "x-trace-id" = some id → id = "") →
    h.response.traceIds = [a.generated]
  /-- A crash is answered in one way only, and with no identity. -/
  crashed : Crashes s a.schedule a.request →
    h.response = .text 500 "Internal Server Error" [] ∧ h.response.traceIds = []

/-- A composed response carries the identity of its request, and no other. -/
theorem Composed.traceIds (h : Composed s schedule generated r) :
    (handle s schedule generated r).response.traceIds = [r.traceId generated] := by
  obtain ⟨response, hplain, hresponse⟩ := h
  rw [hresponse, traceIds_withTraceId hplain]

/-- One request is identified in its response. -/
theorem handle_identified (s : Settings) (a : Arrival) :
    Identified s a (handle s a.schedule a.generated a.request) where
  own hcrashes id hid hne := by
    have hcomposed : Composed s a.schedule a.generated a.request :=
      (composed_or_crashes ..).resolve_right hcrashes
    rw [hcomposed.traceIds, traceId_of_own a.generated hid hne]
  generated hcrashes hnone := by
    have hcomposed : Composed s a.schedule a.generated a.request :=
      (composed_or_crashes ..).resolve_right hcrashes
    rw [hcomposed.traceIds, traceId_of_none a.generated hnone]
  crashed hcrashes := by
    rw [response_of_crashes hcrashes]
    exact ⟨rfl, by decide +kernel⟩

/-- **Every response that is composed is identified**: whatever the settings are, whatever requests
come one after another, and whatever the target does. A body with half of a surrogate pair means
something that no text holds, so nothing is said about it. -/
theorem serve_identified (s : Settings) (arrivals : List Arrival) :
    List.Forall₂ (fun a h => a.request.hasLoneSurrogate = false → Identified s a h) arrivals
      (serve s arrivals) := by
  induction arrivals with
  | nil => exact .nil
  | cons a rest ih => exact .cons (fun _ => handle_identified s a) ih

end Application

end Handling

namespace Application

attribute [local instance] Platform.bare

/-- A predicate that asks for the last but one of the only document crashes, and then the response
has no identity although the request has one. -/
theorem traceIds_eq_nil_of_index :
    (Request.signedPush.withHeader "X-Trace-Id" "abc").headers.first? "x-trace-id" = some "abc" ∧
      (handle { secretToken := "k", eventFilters := [(.push, ⟨some "$[-2]", none⟩)] } .unasked "id"
        (Request.signedPush.withHeader "X-Trace-Id" "abc")).response.traceIds = [] := by
  have hd : (Request.signedPush.withHeader "X-Trace-Id" "abc").Delivers
      { secretToken := "k", eventFilters := [(.push, ⟨some "$[-2]", none⟩)] } .push (.object []) :=
    (Request.signedPush_delivers (by decide) rfl).withHeader _ _ (by decide +kernel)
  have hcrashes : Crashes { secretToken := "k", eventFilters := [(.push, ⟨some "$[-2]", none⟩)] }
      .unasked (Request.signedPush.withHeader "X-Trace-Id" "abc") :=
    .predicate (c := .indexOutOfRange) hd (by rfl)
  refine ⟨by decide +kernel, ?_⟩
  rw [response_of_crashes hcrashes]
  decide +kernel

end Application

end WebhookRelay
