import WebhookRelay.Proofs.Application.Identity
import WebhookRelay.Proofs.Header.Joining

/-!
# The target's response is handed on

Once a delivery has been sent and the target has answered, the caller gets that answer, whatever its
status is: the status, the body byte for byte, and the headers, except for those about framing, with
the identity of the delivery in place of the target's own. Only one call is made, so no redirection
is followed.

- `Headers.endToEnd`: the headers of the target's response that the caller gets.
- `HandsOn`: a response is the target's as the caller should get it.
- `Application.handle_handsOn`: the response to a delivery that the target has answered.
-/

namespace WebhookRelay

/-! ## Headers -/

/-- The headers of the target's response that the caller does not get: those about framing, and the
identity. -/
def Headers.heldBack : List String :=
  ["connection", "content-encoding", "content-length", "keep-alive", "transfer-encoding",
    "x-trace-id"]

/-- The headers of the target's response that the caller gets: every other name in lower case at the
place where it first comes, with all its values. -/
def Headers.endToEnd (hs : Headers) : Headers :=
  (hs.names.filter (!heldBack.contains ·)).map fun n => (n, ", ".intercalate (hs.values n))

/-- Is a header neither the length nor the identity, which are put on anew? -/
def Headers.isKept (h : String × String) : Bool :=
  h.1 != "content-length" && h.1 != "x-trace-id"

/-- Of the headers that are sent back, those that are not put on anew are the ones that the caller
should get. -/
theorem Headers.filter_passThrough (hs : Headers) :
    (passThrough hs).filter isKept = hs.endToEnd := by
  rw [passThrough_eq, List.filter_map, List.filter_filter, endToEnd]
  congr 2
  funext n
  simp only [Function.comp_apply, isKept, hopByHop, heldBack, List.contains_cons,
    List.contains_nil, bne]
  cases n == "content-length" <;> cases n == "x-trace-id" <;> simp

namespace Response

/-- The length of a response is not among the headers that are kept. -/
theorem filter_withLength (status : Nat) (headers : Headers) (body : ByteArray) :
    (withLength status headers body).headers.filter Headers.isKept =
      headers.filter Headers.isKept := by
  unfold withLength
  rw [List.filter_append]
  split
  · exact List.append_nil _
  · exact List.append_nil _

/-- Nor is the identity that is put on it. -/
theorem filter_withTraceId (id : String) (r : Response) :
    (r.withTraceId id).headers.filter Headers.isKept = r.headers.filter Headers.isKept := by
  have hkept : (fun h => Headers.isKept h && h.1 != "x-trace-id") = Headers.isKept := by
    funext h
    rw [Headers.isKept, Bool.and_assoc, Bool.and_self]
  unfold withTraceId
  rw [List.filter_append, List.filter_filter, hkept]
  exact List.append_nil _

end Response

/-! ## Waiting -/

/-- A call that has been answered is not cancelled. -/
theorem Schedule.cancelled_of_replied {schedule : Schedule} {reply : Reply}
    (h : schedule.watch.ending = .replied reply) : schedule.watch.cancelled = false := by
  induction schedule with
  | finished _ => rfl
  | unfinished gone rest ih =>
    cases gone with
    | true => cases h
    | false => exact ih h
  | unasked | interrupted => cases h

/-! ## The response -/

/-- A response is the target's as the caller should get it. -/
structure HandsOn (t : TargetResponse) (id : String) (response : Response) : Prop where
  status : response.status = t.status
  body : response.body = t.body
  /-- Apart from the length and the identity, the headers are the target's, without those about
  framing. -/
  headers : response.headers.filter Headers.isKept = t.headers.endToEnd
  /-- The identity is that of the delivery, and no other. -/
  identity : response.traceIds = [id]

/-- What is sent back of the target's response is that response as it should be. -/
theorem HandsOn.of_passThrough (t : TargetResponse) (id : String) :
    HandsOn t id ((Response.withLength t.status (Headers.passThrough t.headers) t.body).withTraceId
      id) where
  status := rfl
  body := rfl
  headers := by
    rw [Response.filter_withTraceId, Response.filter_withLength, Headers.filter_passThrough]
  identity := traceIds_withTraceId (plain_withLength (Headers.plain_passThrough _) _) id

namespace Application

section Handling

variable [Platform]

/-- **The target's response is handed on**: whatever the settings, the delivery and the target's
response are, once the delivery has been sent and the target has answered, the caller gets that
answer, if its headers are in the characters that bytes stand for. The target has been called
once. -/
theorem handle_handsOn (s : Settings) (schedule : Schedule) (generated : String) (r : Request)
    (t : TargetResponse) (hsent : (handle s schedule generated r).sent ≠ [])
    (hreply : schedule.watch.ending = .replied (.response t))
    (hheaders : t.headers.isLatin = true) :
    HandsOn t (r.traceId generated) (handle s schedule generated r).response ∧
      ∃ call, (handle s schedule generated r).sent = [⟨call, false⟩] := by
  -- What has been sent is the call that is authorized.
  obtain ⟨x, hx⟩ := List.exists_mem_of_ne_nil _ hsent
  obtain ⟨hroute, call, hplan⟩ := relay_of_sent hx
  obtain ⟨event, document, hcall⟩ := (plan_eq_relay_iff hroute).mp hplan
  rw [handle_sent_of_authorized hcall] at hsent ⊢
  have hascii : call.headers.isAscii = true := by
    by_contra hascii
    exact hsent (if_neg hascii)
  rw [response_of_answer hcall hascii hreply (Headers.isLatin_passThrough hheaders), if_pos hascii,
    Schedule.cancelled_of_replied hreply]
  exact ⟨.of_passThrough t _, call, rfl⟩

end Handling

attribute [local instance] Platform.bare

/-- A redirection with a repeated header, an identity of its own and a header about framing: the
caller gets it as it is, under the identity of the delivery. -/
theorem handle_handsOn_of_redirection :
    ∃ t : TargetResponse, t.status = 302 ∧ t.headers.isLatin = true ∧
      t.headers = [("Location", "/b"), ("X-Part", "1"), ("Connection", "close"), ("x-part", "2"),
        ("X-Trace-Id", "theirs")] ∧
      (handle .relayAll (.finished (.response t)) "id" Request.signedPush).sent ≠ [] ∧
      (handle .relayAll (.finished (.response t)) "id" Request.signedPush).response.status = 302 ∧
      (handle .relayAll (.finished (.response t)) "id"
          Request.signedPush).response.headers.filter Headers.isKept =
        [("location", "/b"), ("x-part", "1, 2")] ∧
      (handle .relayAll (.finished (.response t)) "id"
        Request.signedPush).response.traceIds = ["id"] := by
  let t : TargetResponse := ⟨302, [("Location", "/b"), ("X-Part", "1"), ("Connection", "close"),
    ("x-part", "2"), ("X-Trace-Id", "theirs")], "moved".toUTF8⟩
  have hlatin : t.headers.isLatin = true := by decide +kernel
  have hcall := Authorized.relayAll (Request.signedPush_delivers (by decide) rfl)
  have hsent : (handle .relayAll (.finished (.response t)) "id" Request.signedPush).sent ≠ [] := by
    rw [handle_sent_of_authorized hcall, if_pos (by decide +kernel)]
    exact List.cons_ne_nil _ _
  obtain ⟨hhandsOn, -⟩ := handle_handsOn _ (.finished (.response t)) "id" _ t hsent rfl hlatin
  refine ⟨t, rfl, hlatin, rfl, hsent, hhandsOn.status, ?_, ?_⟩
  · rw [hhandsOn.headers]
    decide +kernel
  · rw [hhandsOn.identity]
    decide +kernel

end Application

end WebhookRelay
