import WebhookRelay.Proofs.Application.Answer

/-!
# Before authentication

Until its signature has been checked, a delivery learns nothing of the configuration. The first
check that it fails decides the answer, whatever the settings are and whatever else is wrong with
it, and nothing is sent. If there is no secret, a delivery that gets as far as the signature is
answered with that fault alone.

- `Check`: the checks in their order; `Check.FailsFirst`: the first one that a request fails.
- `Check.answer`: the answer to a request by that check.
- `plan_of_failsFirst`: the first failing check is what is planned, and nothing is recorded.
- `handle_of_rejected`: what handling does for a delivery that is rejected.
- `Application.Reticent`: nothing of the configuration shows before authentication.
-/

namespace WebhookRelay

/-! ## Checks -/

/-- What a delivery has to pass until its sender is known. -/
inductive Check where
  | method
  | mediaType
  | eventName
  | bodyText
  | signature
deriving DecidableEq, Repr

namespace Check

/-- The checks before a check. -/
def earlier : Check → List Check
  | .method => []
  | .mediaType => [.method]
  | .eventName => [.method, .mediaType]
  | .bodyText => [.method, .mediaType, .eventName]
  | .signature => [.method, .mediaType, .eventName, .bodyText]

/-- A request passes a check. -/
def Passed (s : Settings) (r : Request) : Check → Prop
  | .method => r.method = "POST"
  | .mediaType => ∃ value, r.headers.first? "content-type" = some value ∧
      "application/json".toList <+: value.toList
  | .eventName => ∃ raw event, r.rawEvent = some raw ∧ Text.trim raw = Event.name event
  | .bodyText => ∃ text, String.fromUTF8? r.body = some text
  | .signature =>
    Signature.verify s.secretToken (r.headers.first? "X-Hub-Signature-256") r.body = .ok true

/-- A request passes all checks before this one, but not this one. -/
structure FailsFirst (s : Settings) (r : Request) (c : Check) : Prop where
  earlier : ∀ b ∈ c.earlier, b.Passed s r
  fails : ¬ c.Passed s r

/-- Of two checks one is before the other, unless they are the same. -/
theorem earlier_total (b c : Check) : b ∈ c.earlier ∨ b = c ∨ c ∈ b.earlier := by
  cases b <;> cases c <;> decide

/-- What is before any check is before the last one. -/
theorem mem_earlier_signature {b c : Check} (h : b ∈ c.earlier) : b ∈ Check.signature.earlier := by
  revert h
  cases b <;> cases c <;> decide

/-- The fault of a request that fails a check. -/
def fault (r : Request) : Check → Fault
  | .method => .request .method
  | .mediaType => .request .mediaType
  | .eventName => .request (.eventName r.rawEvent)
  | .bodyText => .request .bodyText
  | .signature => .auth

/-- The answer to a request that fails a check. -/
def answer (r : Request) : Check → Response
  | .method => .text 400 "Unexpected HTTP method" [("allow", "POST")]
  | .mediaType => .text 415 "Missing or bad content type header for a JSON payload" []
  | .eventName =>
    .text 400 ("Missing, invalid or unrecognized event name: " ++ r.rawEvent.getD "None") []
  | .bodyText => .text 400 "The request body is not valid text" []
  | .signature => .text 403 "Missing or invalid GitHub webhook signature" []

variable {s : Settings} {r : Request}

/-- The fault of a check is answered as it should be. -/
theorem ofFault_fault (r : Request) (c : Check) : Response.ofFault (c.fault r) = c.answer r := by
  cases c <;> rfl

/-- Unless all of the first four checks are passed, one of them fails first. -/
theorem exists_failsFirst (h : ¬ ∀ b ∈ Check.signature.earlier, b.Passed s r) :
    ∃ c ∈ Check.signature.earlier, c.FailsFirst s r := by
  by_contra hnone
  have hpassed : ∀ c ∈ Check.signature.earlier, (∀ b ∈ c.earlier, b.Passed s r) → c.Passed s r := by
    intro c hc hearlier
    by_contra hfails
    exact hnone ⟨c, hc, hearlier, hfails⟩
  -- So each check is passed if those before it are, one after another.
  have hmethod : Check.method.Passed s r := hpassed _ (by decide) (by simp [earlier])
  have hmedia : Check.mediaType.Passed s r := hpassed _ (by decide) (by simpa [earlier])
  have hevent : Check.eventName.Passed s r :=
    hpassed _ (by decide) (by simpa [earlier] using ⟨hmethod, hmedia⟩)
  have hbody : Check.bodyText.Passed s r :=
    hpassed _ (by decide) (by simpa [earlier] using ⟨hmethod, hmedia, hevent⟩)
  exact h (by simpa [earlier] using ⟨hmethod, hmedia, hevent, hbody⟩)

end Check

/-! ## The first check that fails -/

variable {s : Settings} {r : Request} {c : Check}

/-- A check that fails ends the checking. -/
theorem guard_of_failed {ε α : Type} {failed : Bool} (h : failed = true) (e : ε)
    (rest : PUnit → Except ε α) :
    (if failed = true then (do let u ← throw e; rest u) else rest ()) = .error e := by
  rw [if_pos h]
  rfl

/-- A check that does not fail lets the checking go on. -/
theorem guard_of_passed {ε α : Type} {failed : Bool} (h : failed = false) (e : ε)
    (rest : PUnit → Except ε α) :
    (if failed = true then (do let u ← throw e; rest u) else rest ()) = rest () := by
  rw [if_neg (Bool.eq_false_iff.mp h)]

/-- The first four checks are passed if each of them is. -/
theorem checkForm_of_passed (h : ∀ b ∈ Check.signature.earlier, b.Passed s r) :
    ∃ event text, checkForm r = .ok (event, text) := by
  obtain ⟨raw, event, hraw, hname⟩ := h .eventName (by decide)
  obtain ⟨text, htext⟩ := h .bodyText (by decide)
  exact ⟨event, text, checkForm_eq_ok_iff.mpr
    ⟨h .method (by decide), h .mediaType (by decide), ⟨raw, hraw, hname⟩, htext⟩⟩

/-- The first of them that fails gives the fault. -/
theorem checkForm_of_failsFirst (h : c.FailsFirst s r) (hc : c ∈ Check.signature.earlier) :
    checkForm r = .error (.fault (c.fault r)) := by
  obtain ⟨hearlier, hfails⟩ := h
  unfold checkForm
  cases c with
  | method => exact guard_of_failed (bne_iff_ne.mpr hfails) _ _
  | mediaType =>
    have hmethod : r.method = "POST" := hearlier .method (by decide)
    have hmedia : "application/json".toList.isPrefixOf
        ((r.headers.first? "content-type").getD "").toList = false :=
      Bool.eq_false_iff.mpr (mediaType_iff.not.mpr hfails)
    rw [guard_of_passed (bne_eq_false_iff_eq.mpr hmethod)]
    exact guard_of_failed (by rw [hmedia, Bool.not_false]) _ _
  | eventName =>
    have hmethod : r.method = "POST" := hearlier .method (by decide)
    have hmedia := mediaType_iff.mpr (hearlier .mediaType (by decide))
    have hevent : Event.ofHeader? r.rawEvent = none := by
      refine Option.eq_none_iff_forall_ne_some.mpr fun event hevent => hfails ?_
      obtain ⟨raw, hraw, hname⟩ := Event.ofHeader?_eq_some_iff.mp hevent
      exact ⟨raw, event, hraw, hname⟩
    rw [guard_of_passed (bne_eq_false_iff_eq.mpr hmethod),
      guard_of_passed (by rw [hmedia, Bool.not_true]), hevent]
    rfl
  | bodyText =>
    have hmethod : r.method = "POST" := hearlier .method (by decide)
    have hmedia := mediaType_iff.mpr (hearlier .mediaType (by decide))
    obtain ⟨raw, event, hraw, hname⟩ := hearlier .eventName (by decide)
    have hevent := Event.ofHeader?_eq_some_iff.mpr ⟨raw, hraw, hname⟩
    have htext : String.fromUTF8? r.body = none :=
      Option.eq_none_iff_forall_ne_some.mpr fun text htext => hfails ⟨text, htext⟩
    rw [guard_of_passed (bne_eq_false_iff_eq.mpr hmethod),
      guard_of_passed (by rw [hmedia, Bool.not_true]), hevent, htext]
    rfl
  | signature => exact absurd hc (by decide)

/-- With a secret, a signature that is not right is a fault of the sender. -/
theorem checkSignature_of_failed (hsecret : s.secretToken ≠ "")
    (h : ¬ Check.signature.Passed s r) : checkSignature s r = .error (.fault .auth) := by
  obtain ⟨b, hb⟩ := Signature.verify_of_ne_empty hsecret
    (r.headers.first? "X-Hub-Signature-256") r.body
  unfold checkSignature
  rw [hb]
  cases b with
  | false => rfl
  | true => exact absurd hb h

/-- Without one, that is a fault of the operator. -/
theorem checkSignature_of_empty (hsecret : s.secretToken = "") :
    checkSignature s r = .error (.config .secretMissing) := by
  unfold checkSignature
  rw [hsecret, Signature.verify_of_empty]

/-- The first check that fails is the same under all settings under which one fails. -/
theorem Check.FailsFirst.unique {s' : Settings} {c' : Check} (h : c.FailsFirst s r)
    (h' : c'.FailsFirst s' r) : c = c' := by
  -- Only the last check depends on the settings, so no other one can fail on one side alone.
  have hpassed : ∀ b ∈ Check.signature.earlier, b.Passed s r ↔ b.Passed s' r := by
    intro b hb
    cases b with
    | method | mediaType | eventName | bodyText => exact Iff.rfl
    | signature => exact absurd hb (by decide)
  obtain hlt | heq | hlt := Check.earlier_total c c'
  · have hc := (hpassed c (mem_earlier_signature hlt)).mpr (h'.earlier c hlt)
    exact absurd hc h.fails
  · exact heq
  · have hc := (hpassed c' (mem_earlier_signature hlt)).mp (h.earlier c' hlt)
    exact absurd hc h'.fails

section Handling

variable [Platform]

/-- Nothing is planned if the signature is not right, and nothing is recorded. -/
theorem plan_of_checkSignature {e : Failure} (h : ∀ b ∈ Check.signature.earlier, b.Passed s r)
    (hsignature : checkSignature s r = .error e) : plan s r = ⟨[], .error e⟩ := by
  obtain ⟨event, text, hform⟩ := checkForm_of_passed h
  unfold plan
  rw [hform, Logged.of_ok_bind]
  dsimp only
  rw [hsignature, Logged.of_error_bind]

/-- Nothing is planned if a check fails, and nothing is recorded but its fault. -/
theorem plan_of_failsFirst (hsecret : s.secretToken ≠ "") (h : c.FailsFirst s r) :
    plan s r = ⟨[], .error (.fault (c.fault r))⟩ := by
  by_cases hc : c = .signature
  · subst hc
    exact plan_of_checkSignature h.earlier (checkSignature_of_failed hsecret h.fails)
  · have hearlier : c ∈ Check.signature.earlier := by
      cases c <;> first | decide | exact absurd rfl hc
    unfold plan
    rw [checkForm_of_failsFirst h hearlier, Logged.of_error_bind]

/-! ## The answer -/

namespace Application

variable {schedule : Schedule} {generated path : String}

/-- What handling does for a delivery that is rejected: it answers and records the fault. -/
def rejected (r : Request) (path id : String) (f : Fault) : Handled :=
  ⟨(Response.ofFault f).withTraceId id, [],
    [⟨f.report.2.1, faultLogger, f.report.2.2,
      [("path", .string path), ("method", .string r.method), ("trace_id", .string id),
        ("error_code", .string f.code), ("error_kind", .string f.report.1)]⟩]⟩

/-- A delivery whose planning ends in a fault, with nothing said before, is rejected. -/
theorem handle_of_rejected {f : Fault} (hroute : r.route = .delivery)
    (hpath : r.addressPath = .ok path) (h : plan s r = ⟨[], .error (.fault f)⟩) :
    handle s schedule generated r = rejected r path (r.traceId generated) f := by
  have hrespond : respond s schedule r = ([], ⟨[], .error (.fault f)⟩) := by
    rw [respond_of_delivery hroute, respondToDelivery_of_error schedule (congrArg _ h), h]
  unfold handle
  rw [hrespond]
  dsimp only
  unfold answerFault
  rw [hpath, Logged.of_ok_bind]
  rfl

/-- A push without a signature and with a body that is no document. -/
def unsignedPush : Request where
  method := "POST"
  path := "/"
  headers := [("Content-Type", "application/json"), ("X-GitHub-Event", "push")]
  body := "\x7b".toUTF8

/-- What holds before the sender of a request is known. -/
structure Reticent (r : Request) (generated : String) : Prop where
  /-- The first check that fails decides the answer, and nothing is sent. -/
  answered : ∀ (s : Settings) (schedule : Schedule) (c : Check), s.secretToken ≠ "" →
    c.FailsFirst s r →
    (handle s schedule generated r).response = (c.answer r).withTraceId (r.traceId generated) ∧
      (handle s schedule generated r).sent = []
  /-- Answer and records are the same under all settings and whatever the target would do. -/
  alike : ∀ (s₁ s₂ : Settings) (schedule₁ schedule₂ : Schedule) (c₁ c₂ : Check),
    s₁.secretToken ≠ "" → s₂.secretToken ≠ "" → c₁.FailsFirst s₁ r → c₂.FailsFirst s₂ r →
    handle s₁ schedule₁ generated r = handle s₂ schedule₂ generated r
  /-- Without a secret that is what is answered, whatever the signature and the body are. -/
  withoutSecret : ∀ (s : Settings) (schedule : Schedule), s.secretToken = "" →
    (∀ b ∈ Check.signature.earlier, b.Passed s r) →
    (handle s schedule generated r).response =
        (Response.text 500
          "Crypto error (bad relay configuration?): webhook secret is not set" []).withTraceId
            (r.traceId generated) ∧
      (handle s schedule generated r).sent = []

/-- **Nothing of the configuration shows before authentication**: for every request for which
deliveries are taken at its path and whose address can be read. -/
theorem handle_reticent (r : Request) (generated : String) (hroute : r.route = .delivery)
    (hhost : ∃ path, r.addressPath = .ok path) : Reticent r generated := by
  obtain ⟨path, hpath⟩ := hhost
  have hrejected : ∀ (s : Settings) (schedule : Schedule) (c : Check), s.secretToken ≠ "" →
      c.FailsFirst s r →
      handle s schedule generated r = rejected r path (r.traceId generated) (c.fault r) :=
    fun s schedule c hsecret hc =>
      handle_of_rejected hroute hpath (plan_of_failsFirst hsecret hc)
  exact {
    answered := by
      intro s schedule c hsecret hc
      rw [hrejected s schedule c hsecret hc, ← c.ofFault_fault r]
      exact ⟨rfl, rfl⟩
    alike := by
      intro s₁ s₂ schedule₁ schedule₂ c₁ c₂ hsecret₁ hsecret₂ hc₁ hc₂
      rw [hrejected s₁ schedule₁ c₁ hsecret₁ hc₁, hrejected s₂ schedule₂ c₂ hsecret₂ hc₂,
        hc₁.unique hc₂]
    withoutSecret := by
      intro s schedule hsecret hpassed
      have hplan := plan_of_checkSignature hpassed (checkSignature_of_empty hsecret)
      rw [handle_of_rejected hroute hpath hplan]
      exact ⟨rfl, rfl⟩ }

end Application

end Handling

namespace Application

attribute [local instance] Platform.bare

/-- A push with no signature and with a body that is no document: whether it would be sent on or its
predicate is broken, answer and records are the same. -/
theorem handle_reticent_of_unsigned :
    (unsignedPush.route = .delivery ∧ ∃ path, unsignedPush.addressPath = .ok path) ∧
      handle { secretToken := "x", unmatchedEventAction := .relay } .unasked "id" unsignedPush =
        handle { secretToken := "y", eventFilters := [(.push, ⟨some "&", none⟩)] } .interrupted "id"
          unsignedPush := by
  have hroute : unsignedPush.route = .delivery := by decide +kernel
  have hpath : unsignedPush.addressPath = .ok "/" := by rfl
  have hfails : ∀ s : Settings, Check.signature.FailsFirst s unsignedPush := by
    intro s
    have hnone : unsignedPush.headers.first? "X-Hub-Signature-256" = none := by decide +kernel
    refine ⟨?_, ?_⟩
    · simp only [Check.earlier, List.mem_cons, List.not_mem_nil, or_false, forall_eq_or_imp,
        forall_eq]
      exact ⟨rfl, ⟨"application/json", by decide +kernel, by decide +kernel⟩,
        ⟨"push", .push, by decide +kernel, by decide +kernel⟩, "\x7b", by decide +kernel⟩
    · rw [Check.Passed, hnone]
      exact Signature.verify_none_ne s.secretToken unsignedPush.body
  have hreticent := handle_reticent unsignedPush "id" hroute ⟨"/", hpath⟩
  refine ⟨⟨hroute, "/", hpath⟩, ?_⟩
  exact hreticent.alike _ _ _ _ .signature .signature (by decide) (by decide)
    (hfails _) (hfails _)

end Application

end WebhookRelay
