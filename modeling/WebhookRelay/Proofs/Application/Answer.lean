import WebhookRelay.Proofs.Application.Admission

/-!
# How requests are answered

What is planned for a delivery and how the waiting for the target ends decide the answer. There is
one lemma for each way that this can go, so that no later proof has to look into the handling again.

- `plan_of_decide_error`, `plan_of_content_error`: nothing is planned without a decision or content.
- `response_of_ok`, `response_of_fault`, `response_of_crash`: the answer, by what handling leads to.
- `handle_of_respond`: the answer that comes about without a call.
- `handle_of_plan_drop`, `handle_of_plan_fault`, `handle_of_plan_crash`: nothing is relayed.
- `response_of_answer`, `response_of_refusal`: the target has answered, or could not be reached.
- `response_of_unsendable`, `response_of_unreadable`, `response_of_broken`,
  `response_of_unfinished`: there is no answer.
-/

namespace WebhookRelay

variable {s : Settings} {r : Request} {event : Event} {document : Json}

/-! ## The end of the waiting -/

namespace Ending

/-- The reason why there is no response of the target: the call has failed, or the caller is
gone. -/
def refusal? : Ending → Option String
  | .replied (.failure kind message) => some (if message.isEmpty then kind else message)
  | .callerGone => some "the inbound delivery was cancelled by the caller"
  | .replied (.response _) | .replied .broken | .pollFailed | .interrupted => none

/-- Is the waiting neither ended by a reply nor by the caller? -/
def isUnfinished : Ending → Bool
  | .pollFailed | .interrupted => true
  | .replied _ | .callerGone => false

variable {ending : Ending} (url : String)

/-- A delivery without a response for such a reason ends in a fault. -/
theorem result_of_refusal {reason : String} (h : ending.refusal? = some reason) :
    (ending.outcome url).result = .error (.fault (.relay reason)) := by
  cases ending with
  | replied reply =>
    cases reply with
    | response t => cases h
    | failure kind message =>
      cases h
      rfl
    | broken => cases h
  | callerGone =>
    cases h
    rfl
  | pollFailed | interrupted => cases h

/-- A delivery whose waiting is not finished ends in a crash. -/
theorem result_of_unfinished (h : ending.isUnfinished = true) :
    ∃ c, (ending.outcome url).result = .error (.crash c) := by
  cases ending with
  | replied _ | callerGone => cases h
  | pollFailed => exact ⟨.pollFailed, rfl⟩
  | interrupted => exact ⟨.interrupted, rfl⟩

/-- Waiting ends with a response, for a reason why there is none, with a broken call, or
unfinished. -/
theorem cases (ending : Ending) :
    (∃ t, ending = .replied (.response t)) ∨ (∃ reason, ending.refusal? = some reason) ∨
      ending = .replied .broken ∨ ending.isUnfinished = true := by
  cases ending with
  | replied reply =>
    cases reply with
    | response t => exact .inl ⟨t, rfl⟩
    | failure kind message => exact .inr (.inl ⟨_, rfl⟩)
    | broken => exact .inr (.inr (.inl rfl))
  | callerGone => exact .inr (.inl ⟨_, rfl⟩)
  | pollFailed | interrupted => exact .inr (.inr (.inr rfl))

end Ending

section Handling

variable [Platform]

/-! ## What is planned -/

/-- For a document without a decision nothing is planned. -/
theorem plan_of_decide_error {e : Failure} (hd : r.Delivers s event document)
    (h : (decide s.matchConfig event document).result = .error e) :
    (plan s r).result = .error e := by
  rw [plan_result hd, h]
  rfl

/-- For a document that the filter relays nothing is planned if there is no content. -/
theorem plan_of_content_error {e : Failure} (hd : r.Delivers s event document)
    (hrelays : Relays s.matchConfig event document)
    (h : (content s document r.body).result = .error e) : (plan s r).result = .error e := by
  rw [plan_result hd, decide_eq_relay_iff.mpr hrelays]
  show (planFor s r document .relay).result = _
  exact Logged.result_bind_of_error h _

namespace Application

variable {schedule : Schedule} {generated path : String}

/-! ## The answer, by what handling leads to -/

/-- A response is sent back under the identity of its request. -/
theorem response_of_ok {response : Response}
    (h : (respond s schedule r).2.result = .ok response) :
    (handle s schedule generated r).response = response.withTraceId (r.traceId generated) := by
  simp only [handle, h]

/-- A fault is answered under the identity of its request, if its address can be read. -/
theorem response_of_fault {f : Fault} (hpath : r.addressPath = .ok path)
    (h : (respond s schedule r).2.result = .error (.fault f)) :
    (handle s schedule generated r).response =
      (Response.ofFault f).withTraceId (r.traceId generated) := by
  -- Recording the fault reads the address once more; without one the fault would be a crash.
  have hanswer : (answerFault r (r.traceId generated) f).result = .ok (.ofFault f) := by
    unfold answerFault
    rw [Logged.result_bind_of_ok hpath]
    rfl
  simp only [handle, h, hanswer]

/-- A crash is not answered, and has no identity. -/
theorem response_of_crash {c : Crash} (h : (respond s schedule r).2.result = .error (.crash c)) :
    (handle s schedule generated r).response = .unhandled := by
  simp only [handle, h]

/-- A fault of a request whose address cannot be read is not answered either. -/
theorem response_of_fault_of_address {f : Fault} {e : Failure} (hpath : r.addressPath = .error e)
    (h : (respond s schedule r).2.result = .error (.fault f)) :
    (handle s schedule generated r).response = .unhandled := by
  have hanswer : (answerFault r (r.traceId generated) f).result = .error e := by
    unfold answerFault
    rw [hpath, Logged.of_error_bind]
  simp only [handle, h, hanswer]

/-! ## Nothing is relayed -/

/-- A response that comes about without a call is sent back, and nothing else is. -/
theorem handle_of_respond {records : List Log.Record} {response : Response} (generated : String)
    (h : respond s schedule r = ([], ⟨records, .ok response⟩)) :
    (handle s schedule generated r).response = response.withTraceId (r.traceId generated) ∧
      (handle s schedule generated r).sent = [] := by
  refine ⟨response_of_ok ?_, ?_⟩
  · rw [h]
  · rw [handle_sent, h]

/-- A delivery that is to be dropped is accepted, and nothing is sent for it. -/
theorem handle_of_plan_drop (hroute : r.route = .delivery) (h : (plan s r).result = .ok .drop) :
    (handle s schedule generated r).response =
        Response.dropped.withTraceId (r.traceId generated) ∧
      (handle s schedule generated r).sent = [] := by
  have hrespond := respondToDelivery_of_drop schedule h
  rw [← respond_of_delivery hroute] at hrespond
  exact handle_of_respond generated hrespond

/-- A delivery that cannot be planned for is answered with the fault, and nothing is sent for it. -/
theorem handle_of_plan_fault {f : Fault} (hroute : r.route = .delivery)
    (hpath : r.addressPath = .ok path) (h : (plan s r).result = .error (.fault f)) :
    (handle s schedule generated r).response =
        (Response.ofFault f).withTraceId (r.traceId generated) ∧
      (handle s schedule generated r).sent = [] := by
  have hrespond := respondToDelivery_of_error schedule h
  rw [← respond_of_delivery hroute] at hrespond
  refine ⟨response_of_fault hpath ?_, ?_⟩
  · rw [hrespond]
  · rw [handle_sent, hrespond]

/-- A delivery whose planning crashes is not answered, and nothing is sent for it. -/
theorem handle_of_plan_crash {c : Crash} (hroute : r.route = .delivery)
    (h : (plan s r).result = .error (.crash c)) :
    (handle s schedule generated r).response = .unhandled ∧
      (handle s schedule generated r).sent = [] := by
  have hrespond := respondToDelivery_of_error schedule h
  rw [← respond_of_delivery hroute] at hrespond
  refine ⟨response_of_crash (c := c) ?_, ?_⟩
  · rw [hrespond]
  · rw [handle_sent, hrespond]

/-! ## A call is to be made -/

section Relaying

variable {call : Outbound}

/-- A call whose headers cannot be sent leads to a crash. -/
theorem respond_of_unsendable (h : Authorized s r event document call)
    (hascii : call.headers.isAscii = false) :
    (respond s schedule r).2.result = .error (.crash .headerText) := by
  have hroute := h.delivers.route
  have hplan := (plan_eq_relay_iff hroute).mpr ⟨event, document, h⟩
  rw [respond_of_delivery hroute]
  simp only [respondToDelivery, hplan, deliverUnlessDisconnected, hascii]
  rfl

/-- A call whose headers can be sent leads to what the end of the waiting means, and a response of
the target is handed on. -/
theorem respond_of_sendable (h : Authorized s r event document call)
    (hascii : call.headers.isAscii = true) :
    (respond s schedule r).2.result =
      (schedule.watch.ending.outcome call.url).result >>= Response.relayed := by
  have hroute := h.delivers.route
  have hplan := (plan_eq_relay_iff hroute).mpr ⟨event, document, h⟩
  rw [respond_of_delivery hroute]
  simp only [respondToDelivery, hplan, deliverUnlessDisconnected, hascii, if_true]
  rw [Logged.result_bind]
  rfl

/-- Without sendable headers there is no answer. -/
theorem response_of_unsendable (h : Authorized s r event document call)
    (hascii : call.headers.isAscii = false) :
    (handle s schedule generated r).response = .unhandled :=
  response_of_crash (respond_of_unsendable h hascii)

/-- A response of the target that can be written is handed on. -/
theorem response_of_answer {t : TargetResponse} (h : Authorized s r event document call)
    (hascii : call.headers.isAscii = true)
    (hending : schedule.watch.ending = .replied (.response t))
    (hlatin : (Headers.passThrough t.headers).isLatin = true) :
    (handle s schedule generated r).response =
      (Response.withLength t.status (Headers.passThrough t.headers) t.body).withTraceId
        (r.traceId generated) := by
  refine response_of_ok ?_
  rw [respond_of_sendable h hascii, hending]
  show Response.relayed t = _
  simp only [Response.relayed, hlatin, if_true]

/-- One that cannot be written is no answer. -/
theorem response_of_unreadable {t : TargetResponse} (h : Authorized s r event document call)
    (hascii : call.headers.isAscii = true)
    (hending : schedule.watch.ending = .replied (.response t))
    (hlatin : (Headers.passThrough t.headers).isLatin = false) :
    (handle s schedule generated r).response = .unhandled := by
  refine response_of_crash (c := .headerText) ?_
  rw [respond_of_sendable h hascii, hending]
  show Response.relayed t = _
  simp only [Response.relayed, hlatin]
  rfl

/-- If the target could not be reached, that is the answer. -/
theorem response_of_refusal {reason : String} (h : Authorized s r event document call)
    (hascii : call.headers.isAscii = true)
    (hending : schedule.watch.ending.refusal? = some reason) :
    (handle s schedule generated r).response =
      (Response.ofFault (.relay reason)).withTraceId (r.traceId generated) := by
  obtain ⟨path, hpath⟩ := h.delivers.address
  refine response_of_fault hpath ?_
  rw [respond_of_sendable h hascii, Ending.result_of_refusal _ hending]
  rfl

/-- A call that is broken has no answer. -/
theorem response_of_broken (h : Authorized s r event document call)
    (hascii : call.headers.isAscii = true) (hending : schedule.watch.ending = .replied .broken) :
    (handle s schedule generated r).response = .unhandled := by
  refine response_of_crash (c := .callBroken) ?_
  rw [respond_of_sendable h hascii, hending]
  rfl

/-- If the waiting is not finished, there is no answer. -/
theorem response_of_unfinished (h : Authorized s r event document call)
    (hascii : call.headers.isAscii = true)
    (hending : schedule.watch.ending.isUnfinished = true) :
    (handle s schedule generated r).response = .unhandled := by
  obtain ⟨c, hc⟩ := Ending.result_of_unfinished call.url hending
  refine response_of_crash (c := c) ?_
  rw [respond_of_sendable h hascii, hc]
  rfl

end Relaying

end Application

end Handling

end WebhookRelay
