import WebhookRelay.Proofs.Application.Relevance

/-!
# The secret stays secret

The secret and the signature are compared with each other, and nothing else is done with them. So two
requests that differ only in their signatures, handled under settings that differ only in their
secrets, have the same answer, send the same and leave the same records, if both comparisons end in
the same way.

- `Settings.withSecret`, `Request.withoutSignature`: what the two sides may differ in.
- `checkForm_withoutSignature`, `planFor_withoutSignature` and the like: what does not look at the
  signature.
- `plan_eq_of_verify_eq`: the same is planned on both sides.
-/

namespace WebhookRelay

/-- The same settings with another secret. -/
def Settings.withSecret (s : Settings) (secret : String) : Settings :=
  { s with secretToken := secret }

/-- Is this the name of the header that holds the signature? -/
def Headers.isSignature (name : String) : Bool :=
  Text.lower name == "x-hub-signature-256"

/-- The same request without its signature. -/
def Request.withoutSignature (r : Request) : Request :=
  { r with headers := r.headers.filter fun h => !Headers.isSignature h.1 }

/-! ## What does not look at the signature -/

/-- The headers that the relay looks at besides the signature. -/
def Headers.otherNames : List String :=
  ["content-type", "host", "X-GitHub-Event", "x-trace-id"]

/-- A request without its signature keeps them. -/
theorem Headers.keeps_other {name : String} (h : name ∈ otherNames) :
    Keeps (fun n => !isSignature n) name := by
  have hothers : ∀ n ∈ otherNames, isSignature n = false := by decide +kernel
  intro n hn
  have hsame : isSignature n = isSignature name := by rw [isSignature, hn, isSignature]
  show (!isSignature n) = true
  rw [hsame, hothers name h]
  rfl

/-- The signature is never sent on, however an allowed name is spelled. -/
theorem Headers.not_isSignature_of_isForwarded {allowed : List String} {name : String}
    (h : isForwarded allowed name = true) : (!isSignature name) = true := by
  cases hsignature : isSignature name with
  | false => rfl
  | true =>
    -- Blocked names are compared in lower case, so no spelling gets around that.
    have hlower : Text.lower name = "x-hub-signature-256" := beq_iff_eq.mp hsignature
    rw [isForwarded, hlower] at h
    cases h

/-- Everything else is kept. -/
theorem Request.withoutSignature_eq (r : Request) :
    r.withoutSignature = r.keeping fun n => !Headers.isSignature n := rfl

/-! ## Planning and answering -/

section WithoutSignature

variable (r : Request)

theorem traceId_withoutSignature (generated : String) :
    r.withoutSignature.traceId generated = r.traceId generated := by
  rw [r.withoutSignature_eq, r.traceId_keeping (Headers.keeps_other (by decide))]

theorem addressPath_withoutSignature : r.withoutSignature.addressPath = r.addressPath := by
  rw [r.withoutSignature_eq, r.addressPath_keeping (Headers.keeps_other (by decide))]

theorem checkForm_withoutSignature : checkForm r.withoutSignature = checkForm r := by
  rw [r.withoutSignature_eq,
    checkForm_keeping r (Headers.keeps_other (by decide)) (Headers.keeps_other (by decide))]

/-- The content and the headers of a call do not depend on the secret, nor on the signature. -/
theorem planFor_withoutSignature (s : Settings) (secret : String) (document : Json)
    (action : Action) :
    planFor (s.withSecret secret) r.withoutSignature document action =
      planFor s r document action := by
  rw [← planFor_keeping r fun _ => Headers.not_isSignature_of_isForwarded]
  cases action <;> rfl

/-- The record and the answer of a fault do not depend on the signature. -/
theorem answerFault_withoutSignature (traceId : String) (f : Fault) :
    Application.answerFault r.withoutSignature traceId f =
      Application.answerFault r traceId f := by
  rw [r.withoutSignature_eq, answerFault_keeping r (Headers.keeps_other (by decide))]

theorem elsewhere_withoutSignature (path : String) :
    Response.elsewhere r.withoutSignature path = Response.elsewhere r path := by
  rw [r.withoutSignature_eq, elsewhere_keeping r (Headers.keeps_other (by decide))]

end WithoutSignature

variable {r₁ r₂ : Request}

/-- Of the secret and the signature, the check only takes how their comparison ends. -/
theorem checkSignature_eq_of_verify_eq {s₁ s₂ : Settings}
    (h : Signature.verify s₁.secretToken (r₁.headers.first? "X-Hub-Signature-256") r₁.body =
      Signature.verify s₂.secretToken (r₂.headers.first? "X-Hub-Signature-256") r₂.body) :
    checkSignature s₁ r₁ = checkSignature s₂ r₂ := by
  unfold checkSignature
  rw [h]

section Handling

variable [Platform]

section TwoRuns

variable {s : Settings} {k₁ k₂ : String} {schedule : Schedule}
  (hr : r₁.withoutSignature = r₂.withoutSignature)
  (hverify : Signature.verify k₁ (r₁.headers.first? "X-Hub-Signature-256") r₁.body =
    Signature.verify k₂ (r₂.headers.first? "X-Hub-Signature-256") r₂.body)

include hr hverify

/-- The same is planned for both requests. -/
theorem plan_eq_of_verify_eq :
    plan (s.withSecret k₁) r₁ = plan (s.withSecret k₂) r₂ := by
  have hform : checkForm r₁ = checkForm r₂ := by
    rw [← checkForm_withoutSignature r₁, hr, checkForm_withoutSignature r₂]
  have hsignature : checkSignature (s.withSecret k₁) r₁ = checkSignature (s.withSecret k₂) r₂ :=
    checkSignature_eq_of_verify_eq hverify
  have hpath : r₁.addressPath = r₂.addressPath := by
    rw [← addressPath_withoutSignature r₁, hr, addressPath_withoutSignature r₂]
  -- Both sides are compared with the settings that have no secret at all.
  have hfor : planFor (s.withSecret k₁) r₁ = planFor (s.withSecret k₂) r₂ := by
    funext document action
    rw [← planFor_withoutSignature r₁ _ "", hr]
    exact planFor_withoutSignature r₂ (s.withSecret k₂) "" document action
  unfold plan
  rw [hform, hsignature, hpath, hfor]
  rfl

/-- Both requests have the same response, and the same reaches the target. -/
theorem respond_eq_of_verify_eq :
    Application.respond (s.withSecret k₁) schedule r₁ =
      Application.respond (s.withSecret k₂) schedule r₂ := by
  have hroute : r₁.route = r₂.route := by
    show r₁.withoutSignature.route = r₂.withoutSignature.route
    rw [hr]
  have helsewhere : Response.elsewhere r₁ = Response.elsewhere r₂ := by
    funext path
    rw [← elsewhere_withoutSignature r₁, hr, elsewhere_withoutSignature r₂]
  unfold Application.respond Application.respondToDelivery
  rw [hroute, helsewhere, plan_eq_of_verify_eq hr hverify]

end TwoRuns

/-- **The secret and the signature act through one bit**: two requests that differ only in their
signatures, handled under settings that differ only in their secrets, have the same answer, send the
same and leave the same records, if checking the one signature under the one secret ends like
checking the other under the other. -/
theorem handle_eq_of_verify_eq (s : Settings) (k₁ k₂ : String) (r₁ r₂ : Request)
    (schedule : Schedule) (generated : String)
    (hr : r₁.withoutSignature = r₂.withoutSignature)
    (hverify : Signature.verify k₁ (r₁.headers.first? "X-Hub-Signature-256") r₁.body =
      Signature.verify k₂ (r₂.headers.first? "X-Hub-Signature-256") r₂.body) :
    Application.handle (s.withSecret k₁) schedule generated r₁ =
      Application.handle (s.withSecret k₂) schedule generated r₂ := by
  have hid : r₁.traceId generated = r₂.traceId generated := by
    rw [← traceId_withoutSignature r₁, hr, traceId_withoutSignature r₂]
  have hanswer : Application.answerFault r₁ = Application.answerFault r₂ := by
    funext id f
    rw [← answerFault_withoutSignature r₁, hr, answerFault_withoutSignature r₂]
  unfold Application.handle
  rw [respond_eq_of_verify_eq hr hverify, hanswer, hid]

end Handling

attribute [local instance] Platform.bare

/-- The same push, signed by two callers with two secrets: the answer is the same, although the
signature is among the headers to be sent on. -/
theorem handle_eq_of_verify_eq_of_signed :
    ∃ r : Request, Request.signedPush.withoutSignature = r.withoutSignature ∧
      Signature.verify "k" (Request.signedPush.headers.first? "X-Hub-Signature-256")
        Request.signedPush.body = .ok true ∧
      Signature.verify "q" (r.headers.first? "X-Hub-Signature-256") r.body = .ok true ∧
      Application.handle (Settings.withSecret { forwardedHeaders := ["X-HUB-Signature-256"] } "k")
          .unasked "id" Request.signedPush =
        Application.handle (Settings.withSecret { forwardedHeaders := ["X-HUB-Signature-256"] } "q")
          .unasked "id" r := by
  let r : Request := { Request.signedPush with
    headers := [("x-hub-signature-256",
        "sha256=4a8ca68084d9d4f7a703a466bb40542bccbf33a54b06bddc49a91c9b99e18ae1"),
      ("Content-Type", "application/json"), ("X-GitHub-Event", "push")] }
  have hr : Request.signedPush.withoutSignature = r.withoutSignature := by rfl
  have hk : Signature.verify "k" (Request.signedPush.headers.first? "X-Hub-Signature-256")
      Request.signedPush.body = .ok true :=
    (Request.signedPush_delivers (s := { secretToken := "k" }) (by decide) rfl).signature
  have hq : Signature.verify "q" (r.headers.first? "X-Hub-Signature-256") r.body = .ok true := by
    decide +kernel
  exact ⟨r, hr, hk, hq,
    handle_eq_of_verify_eq _ "k" "q" _ r .unasked "id" hr (hk.trans hq.symm)⟩

end WebhookRelay
