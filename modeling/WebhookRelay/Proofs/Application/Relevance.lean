import WebhookRelay.Proofs.Application.Admission
import WebhookRelay.Proofs.Header.Forwarding

/-!
# Headers that make no difference

The relay looks at five headers and hands some more on to the target. A request that is left with
these is handled as before, so no other header gets to the target or shows in the answer.

- `Request.keeping`: a request without some of its headers.
- `handle_keeping`: it is handled as before if it keeps what is looked at and what is sent on.
- `Request.relevantTo`: a request with nothing else.
- `Application.Confines`: what the relay lets through of the headers of a request.
- `Application.confines`: no other header gets through.
-/

namespace WebhookRelay

/-- A header is kept, however its name is spelled. -/
def Headers.Keeps (keep : String → Bool) (name : String) : Prop :=
  ∀ n, Text.lower n = Text.lower name → keep n = true

namespace Request

/-- The same request with those headers only whose names are kept. -/
def keeping (r : Request) (keep : String → Bool) : Request :=
  { r with headers := r.headers.filter fun h => keep h.1 }

variable (r : Request) {keep : String → Bool}

/-! ## What is looked at -/

/-- A header that is kept is still the first one of its name. -/
theorem first?_keeping {name : String} (hkept : Headers.Keeps keep name) :
    (r.keeping keep).headers.first? name = r.headers.first? name := by
  unfold Headers.first? keeping
  rw [List.find?_filter]
  congr 2
  funext h
  cases hname : Text.lower h.1 == Text.lower name with
  | false => exact decide_eq_false fun hboth => nomatch hboth.2
  | true => exact decide_eq_true ⟨hkept h.1 (beq_iff_eq.mp hname), rfl⟩

theorem rawEvent_keeping (hkept : Headers.Keeps keep "X-GitHub-Event") :
    (r.keeping keep).rawEvent = r.rawEvent :=
  r.first?_keeping hkept

theorem traceId_keeping (hkept : Headers.Keeps keep "x-trace-id") (generated : String) :
    (r.keeping keep).traceId generated = r.traceId generated := by
  unfold traceId
  rw [r.first?_keeping hkept]

theorem addressPath_keeping (hkept : Headers.Keeps keep "host") :
    (r.keeping keep).addressPath = r.addressPath := by
  unfold addressPath
  rw [r.first?_keeping hkept]
  rfl

/-- The same headers are sent on if all of these are kept. -/
theorem selectForwarded_keeping {allowed : List String}
    (hkept : ∀ n, Headers.isForwarded allowed n = true → keep n = true) :
    (r.keeping keep).headers.selectForwarded allowed = r.headers.selectForwarded allowed := by
  unfold Headers.selectForwarded keeping
  rw [List.filter_filter]
  congr 3
  funext h
  cases hforwarded : Headers.isForwarded allowed h.1 with
  | false => rfl
  | true => rw [hkept h.1 hforwarded, Bool.and_self]

end Request

/-! ## Planning and answering -/

section Keeping

variable (r : Request) {keep : String → Bool}

theorem checkForm_keeping (htype : Headers.Keeps keep "content-type")
    (hevent : Headers.Keeps keep "X-GitHub-Event") :
    checkForm (r.keeping keep) = checkForm r := by
  unfold checkForm
  rw [r.rawEvent_keeping hevent, r.first?_keeping htype]
  rfl

theorem checkSignature_keeping (s : Settings)
    (hkept : Headers.Keeps keep "X-Hub-Signature-256") :
    checkSignature s (r.keeping keep) = checkSignature s r := by
  unfold checkSignature
  rw [r.first?_keeping hkept]
  rfl

theorem planFor_keeping {s : Settings}
    (hkept : ∀ n, Headers.isForwarded s.forwardedHeaders n = true → keep n = true) :
    planFor s (r.keeping keep) = planFor s r := by
  funext document action
  cases action with
  | drop => rfl
  | relay =>
    unfold planFor
    dsimp only
    rw [r.selectForwarded_keeping hkept]
    rfl

theorem answerFault_keeping (hkept : Headers.Keeps keep "host") (traceId : String) (f : Fault) :
    Application.answerFault (r.keeping keep) traceId f = Application.answerFault r traceId f := by
  unfold Application.answerFault
  rw [r.addressPath_keeping hkept]
  rfl

theorem elsewhere_keeping (hkept : Headers.Keeps keep "host") (path : String) :
    Response.elsewhere (r.keeping keep) path = Response.elsewhere r path := by
  unfold Response.elsewhere
  rw [r.first?_keeping hkept]

/-- All headers that the relay looks at. -/
def Request.readNames : List String := "x-trace-id" :: decisiveNames

section

variable [Platform] {s : Settings} (hread : ∀ name ∈ Request.readNames, Headers.Keeps keep name)
  (hsent : ∀ n, Headers.isForwarded s.forwardedHeaders n = true → keep n = true)

include hread hsent

/-- The same is planned for a request that keeps what is looked at and what is sent on. -/
theorem plan_keeping : plan s (r.keeping keep) = plan s r := by
  unfold plan
  rw [checkForm_keeping r (hread _ (by decide)) (hread _ (by decide)),
    checkSignature_keeping r s (hread _ (by decide)), r.addressPath_keeping (hread _ (by decide)),
    planFor_keeping r hsent]

/-- So it is handled as before. -/
theorem handle_keeping (schedule : Schedule) (generated : String) :
    Application.handle s schedule generated (r.keeping keep) =
      Application.handle s schedule generated r := by
  have hhost : Headers.Keeps keep "host" := hread _ (by decide)
  have hid := r.traceId_keeping (hread _ (by decide)) generated
  have hanswer : Application.answerFault (r.keeping keep) = Application.answerFault r := by
    funext id f
    exact answerFault_keeping r hhost id f
  have helsewhere : Response.elsewhere (r.keeping keep) = Response.elsewhere r := by
    funext path
    exact elsewhere_keeping r hhost path
  have hroute : (r.keeping keep).route = r.route := rfl
  have hrespond : Application.respond s schedule (r.keeping keep) =
      Application.respond s schedule r := by
    unfold Application.respond Application.respondToDelivery
    rw [hroute, helsewhere, plan_keeping r hread hsent]
  unfold Application.handle
  rw [hid, hrespond, hanswer]

end

end Keeping

/-! ## Headers that do not count -/

/-- Is this the name of a header that the relay looks at? -/
def Headers.isRead (name : String) : Bool :=
  (Request.readNames.map Text.lower).contains (Text.lower name)

/-- The same request without the headers that the relay does not look at and that are blocked or not
allowed. -/
def Request.relevantTo (s : Settings) (r : Request) : Request :=
  r.keeping fun n =>
    Headers.isRead n || (!Headers.isBlocked n && Headers.isAllowed s.forwardedHeaders n)

namespace Application

section Handling

variable [Platform]

/-- What the relay lets through of the headers of a request. -/
structure Confines (s : Settings) (r : Request) : Prop where
  /-- Of these headers those are selected that may and must be sent on. -/
  selects : Headers.ForwardsOnly r.headers s.forwardedHeaders
    (r.headers.selectForwarded s.forwardedHeaders)
  /-- Whatever is sent has the headers that are selected. -/
  sends : ∀ schedule generated, ∀ x ∈ (handle s schedule generated r).sent,
    x.request.headers = r.headers.selectForwarded s.forwardedHeaders
  /-- The headers that do not count make no difference, neither to the answer nor to what is sent
  or recorded. -/
  blind : ∀ (r' : Request) schedule generated, r'.relevantTo s = r.relevantTo s →
    handle s schedule generated r' = handle s schedule generated r

theorem handle_relevantTo (s : Settings) (schedule : Schedule) (generated : String) (r : Request) :
    handle s schedule generated (r.relevantTo s) = handle s schedule generated r := by
  refine handle_keeping r (fun name hname n hn => ?_) (fun n hn => ?_) schedule generated
  · have hread : Headers.isRead n = true := by
      rw [Headers.isRead, hn]
      exact List.contains_iff_mem.mpr (List.mem_map_of_mem hname)
    rw [hread, Bool.true_or]
  · rw [← Headers.isForwarded_eq, hn, Bool.or_true]

/-- **No other header gets through**: what reaches the target has the headers that may be sent on
and the content type, and two requests that differ in other headers only are handled alike. -/
theorem confines (s : Settings) (r : Request) : Confines s r where
  selects := Headers.forwardsOnly_selectForwarded r.headers s.forwardedHeaders
  sends schedule generated x hx := by
    obtain ⟨⟨_, _, hcall⟩, -⟩ :=
      ((handle_sends s schedule generated r).authorized x.request).mp ⟨x, hx, rfl⟩
    exact hcall.headers
  blind r' schedule generated h := by
    rw [← handle_relevantTo s schedule generated r', h, handle_relevantTo]

end Handling

attribute [local instance] Platform.bare

/-- A push with a cookie and credentials is handled like one without them, although both names are
on the list. -/
theorem confines_of_credentials :
    ∃ (s : Settings) (r : Request), s.forwardedHeaders = ["cookie", "Authorization"] ∧
      r.headers = Request.signedPush.headers ++
        [("Cookie", "session=1"), ("AUTHORIZATION", "Bearer t")] ∧
      r.relevantTo s = Request.signedPush.relevantTo s ∧
      handle s .unasked "id" r = handle s .unasked "id" Request.signedPush := by
  let s : Settings := { Settings.relayAll with forwardedHeaders := ["cookie", "Authorization"] }
  let r : Request := (Request.signedPush.withHeader "Cookie" "session=1").withHeader
    "AUTHORIZATION" "Bearer t"
  have hrelevant : r.relevantTo s = Request.signedPush.relevantTo s := by rfl
  exact ⟨s, r, rfl, rfl, hrelevant, (confines s Request.signedPush).blind r .unasked "id" hrelevant⟩

end Application

end WebhookRelay
