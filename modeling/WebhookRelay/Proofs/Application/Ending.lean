import WebhookRelay.Proofs.Application.Answer

/-!
# How relayed deliveries end

A delivery that is to be relayed should end with the target's response or with the answer that the
target could not be reached. It does so exactly if all that is to be written on the way can be
written, the headers towards the target in ASCII and those of its response in the first 256
characters, and if the call does not fail in a way that calls are not expected to fail. Otherwise
the delivery is not answered.

- `EndsAsPromised`: the two ways in which a delivery should end.
- `Writable`: the headers towards the target and those of its response can be written, and the call
  does not break.
- `Application.Ends`: a delivery ends as it should exactly if this holds.
-/

namespace WebhookRelay

/-! ## Two ways to end -/

/-- The target's response as the caller gets it. -/
def Response.handedOn (id : String) (t : TargetResponse) : Response :=
  (Response.withLength t.status (Headers.passThrough t.headers) t.body).withTraceId id

/-- The answer that the target could not be reached. -/
def Response.undelivered (id reason : String) : Response :=
  (Response.text 500 ("Could not deliver event to target URL: " ++ reason) []).withTraceId id

/-- The two ways in which a delivery that is to be relayed should end. -/
inductive EndsAsPromised (schedule : Schedule) (id : String) : Response → Prop where
  /-- The target has answered. -/
  | answered {t : TargetResponse} (h : schedule.watch.ending = .replied (.response t)) :
    EndsAsPromised schedule id (.handedOn id t)
  /-- The call has failed, or the caller has gone away before its end. -/
  | undelivered {reason : String} (h : schedule.watch.ending.refusal? = some reason) :
    EndsAsPromised schedule id (.undelivered id reason)

/-- Every response with an identity has a header for it. -/
theorem Response.mem_headers_withTraceId (id : String) (r : Response) :
    ("x-trace-id", id) ∈ (r.withTraceId id).headers :=
  List.mem_append_right _ (List.mem_singleton_self _)

/-- A delivery that is not answered has not ended as it should. -/
theorem EndsAsPromised.ne_unhandled {schedule : Schedule} {id : String} {response : Response}
    (h : EndsAsPromised schedule id response) : response ≠ .unhandled := by
  rintro rfl
  -- Both ways lead to a response with an identity, and that one has none.
  have hnone : ("x-trace-id", id) ∉ Response.unhandled.headers := by
    simp [Response.unhandled, Response.text, Response.withLength]
  have hmem : ("x-trace-id", id) ∈ Response.unhandled.headers := by
    generalize Response.unhandled = response at h
    cases h with
    | answered => exact Response.mem_headers_withTraceId id _
    | undelivered => exact Response.mem_headers_withTraceId id _
  exact hnone hmem

/-- The headers towards the target and those of its response, if there is one, can be written, and
the call does not break between them. -/
structure Writable (call : Outbound) (schedule : Schedule) : Prop where
  towardsTarget : call.headers.isAscii = true
  unbroken : schedule.watch.ending ≠ .replied .broken
  towardsCaller : ∀ t, schedule.watch.ending = .replied (.response t) →
    (Headers.passThrough t.headers).isLatin = true

namespace Application

variable {s : Settings} {schedule : Schedule} {generated : String} {r : Request} {event : Event}
  {document : Json} {call : Outbound}

section Handling

variable [Platform]

/-- If all can be written, and the waiting is finished, the delivery ends as it should. -/
theorem endsAsPromised_of_writable (h : Authorized s r event document call)
    (hfinished : schedule.watch.ending.isUnfinished = false) (hw : Writable call schedule) :
    EndsAsPromised schedule (r.traceId generated) (handle s schedule generated r).response := by
  obtain ⟨t, hending⟩ | ⟨reason, hending⟩ | hending | hending := schedule.watch.ending.cases
  · rw [response_of_answer h hw.towardsTarget hending (hw.towardsCaller t hending)]
    exact .answered hending
  · rw [response_of_refusal h hw.towardsTarget hending]
    exact .undelivered hending
  · exact absurd hending hw.unbroken
  · rw [hfinished] at hending
    cases hending

/-- If it cannot, the delivery is not answered. -/
theorem response_of_not_writable (h : Authorized s r event document call)
    (hw : ¬ Writable call schedule) : (handle s schedule generated r).response = .unhandled := by
  by_cases hascii : call.headers.isAscii = true
  case neg => exact response_of_unsendable h (Bool.eq_false_iff.mpr hascii)
  by_cases hbroken : schedule.watch.ending = .replied .broken
  case pos => exact response_of_broken h hascii hbroken
  by_cases hlatin : ∀ t, schedule.watch.ending = .replied (.response t) →
      (Headers.passThrough t.headers).isLatin = true
  case pos => exact absurd ⟨hascii, hbroken, hlatin⟩ hw
  push Not at hlatin
  obtain ⟨t, hending, hlatin⟩ := hlatin
  exact response_of_unreadable h hascii hending (Bool.eq_false_iff.mpr hlatin)

/-- How a delivery that is to be relayed ends. -/
structure Ends (s : Settings) (schedule : Schedule) (generated : String) (r : Request)
    (call : Outbound) : Prop where
  /-- It ends as it should exactly if the headers can be written and the call does not break. -/
  asPromised :
    EndsAsPromised schedule (r.traceId generated) (handle s schedule generated r).response ↔
      Writable call schedule
  /-- Otherwise it is not answered. -/
  otherwise : ¬ Writable call schedule →
    (handle s schedule generated r).response = .unhandled
  /-- Towards the target that is so if all is ASCII that comes in to be sent on. -/
  sendable : (∀ h ∈ r.headers, Headers.isForwarded s.forwardedHeaders h.1 = true →
    Headers.isAscii [h] = true) → call.headers.isAscii = true

/-- **A delivery ends in one of two ways if its headers can be written** and its call does not break:
whatever the settings, the delivery and the target are, once the target has answered or failed, or
the caller has gone away. -/
theorem handle_ends (s : Settings) (schedule : Schedule) (generated : String) (r : Request)
    (event : Event) (document : Json) (call : Outbound) (h : Authorized s r event document call)
    (hfinished : schedule.watch.ending.isUnfinished = false) :
    Ends s schedule generated r call where
  asPromised := by
    constructor
    · intro hends
      by_contra hw
      exact hends.ne_unhandled (response_of_not_writable h hw)
    · exact endsAsPromised_of_writable h hfinished
  otherwise := response_of_not_writable h
  sendable hascii := by
    rw [h.headers]
    exact Headers.isAscii_selectForwarded hascii

end Handling

attribute [local instance] Platform.bare

/-- A push for a target that cannot be reached: the caller is told so. -/
theorem handle_ends_of_failure :
    ∃ call, Authorized .relayAll Request.signedPush .push (.object []) call ∧
      EndsAsPromised (.finished (.failure "ConnectError" "")) "id"
        (handle .relayAll (.finished (.failure "ConnectError" "")) "id"
          Request.signedPush).response := by
  have hcall := Authorized.relayAll (Request.signedPush_delivers (by decide) rfl)
  have hends := handle_ends _ (.finished (.failure "ConnectError" "")) "id" _ _ _ _ hcall rfl
  refine ⟨_, hcall, hends.asPromised.mpr ⟨?_, nofun, nofun⟩⟩
  decide +kernel

/-- The same push with a letter in its user agent that is not ASCII: although the target answers, it
is not answered. -/
theorem not_endsAsPromised_of_accent :
    (∃ call, Authorized .relayAll (Request.signedPush.withHeader "User-Agent" "\u00e9") .push
      (.object []) call) ∧
    ¬ EndsAsPromised (.finished (.response ⟨200, [], "ok".toUTF8⟩)) "id"
      (handle .relayAll (.finished (.response ⟨200, [], "ok".toUTF8⟩)) "id"
        (Request.signedPush.withHeader "User-Agent" "\u00e9")).response := by
  have hd : (Request.signedPush.withHeader "User-Agent" "\u00e9").Delivers .relayAll .push
      (.object []) :=
    (Request.signedPush_delivers (by decide) rfl).withHeader _ _ (by decide +kernel)
  have hcall := Authorized.relayAll hd
  refine ⟨⟨_, hcall⟩, fun hends => hends.ne_unhandled (response_of_unsendable hcall ?_)⟩
  decide +kernel

end Application

end WebhookRelay
