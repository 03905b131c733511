import Mathlib.Data.List.Forall2
import WebhookRelay.Application

/-!
# What reaches the target

The target is called at most once for a request, and only for a delivery that has passed every
check and that the filter relays. What is sent then is fixed by the settings and the delivery.

- `Request.Delivers`: a request delivers a document for an event.
- `plan_result`, `delivers_of_plan`: exactly such requests get as far as the filter.
- `Relays`: the filter relays a document. `Carries`: the content that is relayed for it.
- `Authorized`: everything that must hold for a call to the target.
- `Application.Sends`: a request leads to the call that is authorized, and to no other.
- `Application.handle_sends`: handling a request sends so; by induction, every run of requests does.
-/

namespace WebhookRelay

variable {s : Settings} {r : Request} {event : Event} {document : Json}

/-! ## Checks -/

/-- The header announces an event if it holds its name. -/
theorem Event.ofHeader?_eq_some_iff {raw : Option String} :
    Event.ofHeader? raw = some event ↔ ∃ value, raw = some value ∧ Text.trim value = event.name := by
  rw [ofHeader?, Option.bind_eq_some_iff]
  refine exists_congr fun value => and_congr_right fun _ => ?_
  rw [Event.ofName?_eq_some_iff, eq_comm]

/-- The media type is there and begins as it must. -/
theorem mediaType_iff {value : Option String} :
    "application/json".toList.isPrefixOf (value.getD "").toList = true ↔
      ∃ v, value = some v ∧ "application/json".toList <+: v.toList := by
  rw [List.isPrefixOf_iff_prefix]
  cases value with
  | none =>
    constructor
    · intro h
      cases List.prefix_nil.mp h
    · rintro ⟨_, h, _⟩
      cases h
  | some v => simp

/-- The rest goes on exactly if the check before it is passed. -/
theorem guard_eq_ok_iff {ε α : Type} {failed : Bool} {e : ε} {rest : PUnit → Except ε α} {a : α} :
    (if failed = true then (do let u ← throw e; rest u) else rest ()) = .ok a ↔
      failed = false ∧ rest () = .ok a := by
  cases failed with
  | true => exact ⟨nofun, nofun⟩
  | false => exact ⟨fun h => ⟨rfl, h⟩, fun h => h.2⟩

/-- The first four checks. -/
theorem checkForm_eq_ok_iff {text : String} :
    checkForm r = .ok (event, text) ↔
      r.method = "POST" ∧
      (∃ value, r.headers.first? "content-type" = some value ∧
        "application/json".toList <+: value.toList) ∧
      (∃ raw, r.rawEvent = some raw ∧ Text.trim raw = event.name) ∧
      String.fromUTF8? r.body = some text := by
  rw [← mediaType_iff, ← Event.ofHeader?_eq_some_iff, checkForm, guard_eq_ok_iff,
    guard_eq_ok_iff, bne_eq_false_iff_eq, Bool.not_eq_false']
  refine and_congr_right fun _ => and_congr_right fun _ => ?_
  cases Event.ofHeader? r.rawEvent with
  | none => exact ⟨nofun, nofun⟩
  | some e =>
    cases String.fromUTF8? r.body with
    | none => exact ⟨nofun, nofun⟩
    | some t =>
      constructor
      · rintro ⟨⟩
        exact ⟨rfl, rfl⟩
      · rintro ⟨⟨⟩, ⟨⟩⟩
        rfl

/-- The caller knows the secret if the signature is right. -/
theorem checkSignature_eq_ok_iff :
    checkSignature s r = .ok () ↔
      Signature.verify s.secretToken (r.headers.first? "X-Hub-Signature-256") r.body =
        .ok true := by
  unfold checkSignature
  cases Signature.verify s.secretToken (r.headers.first? "X-Hub-Signature-256") r.body with
  | error e => exact ⟨nofun, nofun⟩
  | ok b =>
    cases b with
    | false => exact ⟨nofun, nofun⟩
    | true => exact ⟨fun _ => rfl, fun _ => rfl⟩

/-! ## The filter and the content -/

/-- The action is what the outcome of the predicate resolves to, if there is an outcome. -/
theorem decide_result (c : MatchConfig) (event : Event) (document : Json) :
    (decide c event document).result =
      (Match.of (c.filterFor event).predicate document).result.map fun outcome =>
        outcome.resolve (c.filterFor event).action c.unmatchedDefault := by
  unfold decide
  rw [Logged.result_bind]
  cases (Match.of (c.filterFor event).predicate document).result <;> rfl

/-- The filter relays a document for an event. -/
def Relays (c : MatchConfig) (event : Event) (document : Json) : Prop :=
  ∃ outcome, (Match.of (c.filterFor event).predicate document).result = .ok outcome ∧
    outcome.resolve (c.filterFor event).action c.unmatchedDefault = .relay

/-- The filter relays a document if the decision is to relay it. -/
theorem decide_eq_relay_iff {c : MatchConfig} :
    (decide c event document).result = .ok .relay ↔ Relays c event document := by
  rw [decide_result, Relays]
  cases (Match.of (c.filterFor event).predicate document).result with
  | error e =>
    constructor
    · nofun
    · rintro ⟨_, h, _⟩
      cases h
  | ok outcome =>
    constructor
    · intro h
      exact ⟨outcome, rfl, Except.ok.inj h⟩
    · rintro ⟨_, ⟨⟩, h⟩
      exact congrArg Except.ok h

/-- For a received body with its document, the content that is relayed: the text of the card if one
is to be made, or else the body byte for byte. -/
def Carries (s : Settings) (document : Json) (received sent : ByteArray) : Prop :=
  if s.adaptToMsTeamsWebhook then
    ∃ card, (renderCard s document).result = .ok card ∧ sent = card.payload.spaced.toUTF8
  else sent = received

/-- The content that is built is the one that a document carries. -/
theorem content_eq_ok_iff {received sent : ByteArray} :
    (content s document received).result = .ok sent ↔ Carries s document received sent := by
  unfold content Carries
  cases s.adaptToMsTeamsWebhook with
  | true =>
    rw [if_pos rfl, if_pos rfl, Logged.result_bind_eq_ok_iff]
    refine exists_congr fun card => and_congr_right fun _ => ?_
    rw [Logged.result_pure, Except.ok.injEq, eq_comm]
  | false =>
    rw [if_neg Bool.false_ne_true, if_neg Bool.false_ne_true, Logged.result_pure, Except.ok.injEq,
      eq_comm]

/-! ## Deliveries -/

section Handling

variable [Platform]

/-- A request delivers a document for an event: it has passed all checks. -/
structure Request.Delivers (s : Settings) (r : Request) (event : Event) (document : Json) :
    Prop where
  route : r.route = .delivery
  method : r.method = "POST"
  mediaType : ∃ value, r.headers.first? "content-type" = some value ∧
    "application/json".toList <+: value.toList
  event : ∃ raw, r.rawEvent = some raw ∧ Text.trim raw = event.name
  secret : s.secretToken ≠ ""
  signature : Signature.verify s.secretToken (r.headers.first? "X-Hub-Signature-256") r.body =
    .ok true
  document : ∃ text, String.fromUTF8? r.body = some text ∧
    Json.depth text ≤ Platform.room text ∧ Json.read text = .ok document
  address : ∃ path, r.addressPath = .ok path

/-- A body is read if there is room for its text and that is read. -/
theorem readBody_eq_ok_iff {text : String} :
    readBody text = .ok document ↔
      Json.depth text ≤ Platform.room text ∧ Json.read text = .ok document := by
  unfold readBody
  split
  case isFalse hroom => exact ⟨nofun, fun h => absurd h.1 hroom⟩
  case isTrue hroom =>
    rw [and_iff_right hroom]
    cases Json.read text with
    | error e => exact ⟨nofun, nofun⟩
    | ok d => exact ⟨fun h => by cases h; rfl, fun h => by cases h; rfl⟩

/-- A request that has passed all checks gets as far as the filter. -/
theorem plan_result (h : r.Delivers s event document) :
    (plan s r).result =
      (decide s.matchConfig event document).result >>= fun a => (planFor s r document a).result := by
  obtain ⟨text, htext, hroom, hread⟩ := h.document
  obtain ⟨path, hpath⟩ := h.address
  have hform : checkForm r = .ok (event, text) :=
    checkForm_eq_ok_iff.mpr ⟨h.method, h.mediaType, h.event, htext⟩
  have hsignature : checkSignature s r = .ok () := checkSignature_eq_ok_iff.mpr h.signature
  have hbody : readBody text = .ok document := readBody_eq_ok_iff.mpr ⟨hroom, hread⟩
  -- Every check is passed, so the computation goes on to the next one.
  unfold plan
  rw [Logged.result_bind_of_ok hform]
  dsimp only
  rw [Logged.result_bind_of_ok hsignature, Logged.result_bind_of_ok hbody,
    Logged.result_bind_of_ok hpath, Logged.result_bind_of_ok (Logged.result_say ..),
    Logged.result_bind]

/-- Only requests that have passed all checks are planned for. -/
theorem delivers_of_plan {p : Plan} (hroute : r.route = .delivery)
    (h : (plan s r).result = .ok p) : ∃ event document, r.Delivers s event document := by
  -- A plan needs a result of every check before it.
  unfold plan at h
  obtain ⟨⟨event, text⟩, hform, h⟩ := Logged.result_bind_eq_ok_iff.mp h
  obtain ⟨_, hsignature, h⟩ := Logged.result_bind_eq_ok_iff.mp h
  obtain ⟨document, hbody, h⟩ := Logged.result_bind_eq_ok_iff.mp h
  obtain ⟨path, hpath, _⟩ := Logged.result_bind_eq_ok_iff.mp h
  obtain ⟨hmethod, hmedia, hevent, htext⟩ := checkForm_eq_ok_iff.mp hform
  have hverify := checkSignature_eq_ok_iff.mp hsignature
  exact ⟨event, document, {
    route := hroute
    method := hmethod
    mediaType := hmedia
    event := hevent
    secret := Signature.ne_empty_of_verify_eq_ok hverify
    signature := hverify
    document := ⟨text, htext, readBody_eq_ok_iff.mp hbody⟩
    address := ⟨path, hpath⟩ }⟩

/-- The same request with another header after the others. -/
def Request.withHeader (r : Request) (name value : String) : Request :=
  { r with headers := r.headers ++ [(name, value)] }

/-- The headers on which it depends whether a document is delivered. -/
def Request.decisiveNames : List String :=
  ["content-type", "X-GitHub-Event", "X-Hub-Signature-256", "host"]

/-- Any other header makes no difference to what is delivered. -/
theorem Request.Delivers.withHeader (h : r.Delivers s event document) (name value : String)
    (hother : ∀ n ∈ decisiveNames, Text.lower name ≠ Text.lower n) :
    (r.withHeader name value).Delivers s event document := by
  have hfirst : ∀ n ∈ decisiveNames,
      (r.withHeader name value).headers.first? n = r.headers.first? n :=
    fun n hn => r.headers.first?_append_of_ne value (hother n hn)
  have hevent : (r.withHeader name value).rawEvent = r.rawEvent := hfirst _ (by decide)
  have hpath : (r.withHeader name value).addressPath = r.addressPath := by
    unfold addressPath
    rw [hfirst _ (by decide)]
    rfl
  exact {
    route := h.route
    method := h.method
    mediaType := by
      rw [hfirst _ (by decide)]
      exact h.mediaType
    event := by
      rw [hevent]
      exact h.event
    secret := h.secret
    signature := by
      rw [hfirst _ (by decide)]
      exact h.signature
    document := h.document
    address := by
      rw [hpath]
      exact h.address }

/-- An empty document for a push, signed with the secret `k`. -/
def Request.signedPush : Request where
  method := "POST"
  path := "/"
  headers := [("Content-Type", "application/json"), ("X-GitHub-Event", "push"),
    ("X-Hub-Signature-256",
      "sha256=add853b103fbcc936a194f9eb15e29c4ff08af6e47d5d1bca4f20218e31e4fff")]
  body := "{}".toUTF8

/-- Whoever has this secret takes the document, if there is room for it. -/
theorem Request.signedPush_delivers (hroom : 1 ≤ Platform.room "{}")
    (h : s.secretToken = "k") : signedPush.Delivers s .push (.object []) where
  route := by decide +kernel
  method := rfl
  mediaType := ⟨"application/json", by decide +kernel, by decide +kernel⟩
  event := ⟨"push", by decide +kernel, by decide +kernel⟩
  secret := by
    rw [h]
    decide
  signature := by
    rw [h]
    decide +kernel
  document := ⟨"{}", by decide +kernel, hroom, by rfl⟩
  address := ⟨"/", by rfl⟩

/-- Something to run on, with empty pages and little room. -/
@[reducible]
def Platform.bare : Platform := ⟨fun _ => .empty, fun _ => 8⟩

/-- Everything that must hold for a call to the target: a document is delivered, the filter relays
it, and the call is made of the settings and the delivery alone. -/
structure Authorized (s : Settings) (r : Request) (event : Event) (document : Json)
    (call : Outbound) : Prop where
  delivers : r.Delivers s event document
  relays : Relays s.matchConfig event document
  method : call.method = "POST"
  url : call.url = s.targetUrl
  headers : call.headers = r.headers.selectForwarded s.forwardedHeaders
  body : Carries s document r.body call.body

/-- A document that the filter relays may be sent with its content. -/
theorem Authorized.of_content {body : ByteArray} (hd : r.Delivers s event document)
    (hrelays : Relays s.matchConfig event document)
    (hcontent : (content s document r.body).result = .ok body) :
    Authorized s r event document
      ⟨"POST", s.targetUrl, r.headers.selectForwarded s.forwardedHeaders, body⟩ :=
  ⟨hd, hrelays, rfl, rfl, rfl, content_eq_ok_iff.mp hcontent⟩

/-- Settings with the secret `k` under which every document is sent on as it came. -/
def Settings.relayAll : Settings :=
  { secretToken := "k", unmatchedEventAction := .relay, adaptToMsTeamsWebhook := false }

/-- Under these settings every document that is delivered may be sent on. -/
theorem Authorized.relayAll (hd : r.Delivers .relayAll event document) :
    Authorized .relayAll r event document
      ⟨"POST", Settings.relayAll.targetUrl,
        r.headers.selectForwarded Settings.relayAll.forwardedHeaders, r.body⟩ :=
  .of_content hd ⟨.absent, rfl, rfl⟩ rfl

/-- The calls that are planned are the authorized ones. -/
theorem plan_eq_relay_iff {call : Outbound} (hroute : r.route = .delivery) :
    (plan s r).result = .ok (.relay call) ↔
      ∃ event document, Authorized s r event document call := by
  constructor
  · intro h
    obtain ⟨event, document, hd⟩ := delivers_of_plan hroute h
    refine ⟨event, document, ?_⟩
    rw [plan_result hd] at h
    cases hdecide : (decide s.matchConfig event document).result with
    | error e =>
      rw [hdecide] at h
      cases h
    | ok action =>
      rw [hdecide] at h
      cases action with
      | drop => cases h
      | relay =>
        obtain ⟨body, hbody, ⟨⟩⟩ := Logged.result_bind_eq_ok_iff.mp h
        exact ⟨hd, decide_eq_relay_iff.mp hdecide, hd.method, rfl, rfl,
          content_eq_ok_iff.mp hbody⟩
  · rintro ⟨event, document, h⟩
    -- Nothing about the call is left open but the content, and that is built as required.
    obtain ⟨method, url, headers, body⟩ := call
    obtain rfl : method = r.method := h.method.trans h.delivers.method.symm
    obtain rfl : url = s.targetUrl := h.url
    obtain rfl : headers = r.headers.selectForwarded s.forwardedHeaders := h.headers
    have hbody : (content s document r.body).result = .ok body := content_eq_ok_iff.mpr h.body
    rw [plan_result h.delivers, decide_eq_relay_iff.mpr h.relays]
    exact Logged.result_bind_of_ok hbody _

/-- For one request no two calls are authorized. -/
theorem Authorized.unique {event' : Event} {document' : Json} {call call' : Outbound}
    (h : Authorized s r event document call) (h' : Authorized s r event' document' call') :
    call = call' := by
  have hroute := h.delivers.route
  have hplan := (plan_eq_relay_iff hroute).mpr ⟨event, document, h⟩
  rw [(plan_eq_relay_iff hroute).mpr ⟨event', document', h'⟩] at hplan
  cases hplan
  rfl

/-! ## One request -/

namespace Application

variable {schedule : Schedule} {generated : String}

/-- What reaches the target is what the response to the request sends. -/
theorem handle_sent : (handle s schedule generated r).sent = (respond s schedule r).1 := rfl

/-- A request that goes to deliveries is answered as one. -/
theorem respond_of_delivery (h : r.route = .delivery) :
    respond s schedule r = respondToDelivery s schedule r := by
  unfold respond
  rw [h]

/-- Requests that go elsewhere send nothing. -/
theorem respond_sent_of_not_delivery (h : r.route ≠ .delivery) :
    (respond s schedule r).1 = [] := by
  unfold respond
  cases hroute : r.route with
  | delivery => exact absurd hroute h
  | documentation _ | health | elsewhere _ | nowhere => rfl

/-- A delivery for which nothing can be planned sends nothing. -/
theorem respondToDelivery_of_error (schedule : Schedule) {e : Failure}
    (h : (plan s r).result = .error e) :
    respondToDelivery s schedule r = ([], ⟨(plan s r).records, .error e⟩) := by
  simp only [respondToDelivery, h]

/-- A delivery that is to be dropped sends nothing. -/
theorem respondToDelivery_of_drop (schedule : Schedule) (h : (plan s r).result = .ok .drop) :
    respondToDelivery s schedule r = ([], ⟨(plan s r).records, .ok .dropped⟩) := by
  simp only [respondToDelivery, h]

/-- A delivery that is to be relayed sends one call, if its headers can be sent. -/
theorem sent_of_relay {call : Outbound} (h : (plan s r).result = .ok (.relay call)) :
    (respondToDelivery s schedule r).1 =
      if call.headers.isAscii then [⟨call, schedule.watch.cancelled⟩] else [] := by
  simp only [respondToDelivery, h, deliverUnlessDisconnected]
  cases call.headers.isAscii <;> rfl

/-- A request that sends something is a delivery that is to be relayed. -/
theorem relay_of_sent {x : Sent} (h : x ∈ (respond s schedule r).1) :
    r.route = .delivery ∧ ∃ call, (plan s r).result = .ok (.relay call) := by
  by_cases hroute : r.route = .delivery
  case neg =>
    rw [respond_sent_of_not_delivery hroute] at h
    cases h
  refine ⟨hroute, ?_⟩
  rw [respond_of_delivery hroute] at h
  cases hplan : (plan s r).result with
  | error e =>
    rw [respondToDelivery_of_error schedule hplan] at h
    cases h
  | ok p =>
    cases p with
    | drop =>
      rw [respondToDelivery_of_drop schedule hplan] at h
      cases h
    | relay call => exact ⟨call, rfl⟩

/-- What must hold between a request and what was done for it: at most one call has reached the
target, and it was exactly an authorized one whose headers can be sent. -/
structure Sends (s : Settings) (r : Request) (h : Handled) : Prop where
  atMostOnce : h.sent.length ≤ 1
  authorized : ∀ call, (∃ x ∈ h.sent, x.request = call) ↔
    (∃ event document, Authorized s r event document call) ∧ call.headers.isAscii = true

/-- Nothing is sent as it must be if no authorized call can be sent. -/
theorem Sends.of_nil {h : Handled} (hsent : h.sent = [])
    (hnone : ∀ call event document, Authorized s r event document call →
      call.headers.isAscii = false) : Sends s r h where
  atMostOnce := by
    rw [hsent]
    exact Nat.zero_le 1
  authorized call := by
    rw [hsent]
    constructor
    · rintro ⟨_, hx, _⟩
      cases hx
    · rintro ⟨⟨event, document, hcall⟩, hascii⟩
      rw [hnone call event document hcall] at hascii
      cases hascii

/-- One call is sent as it must be if it is authorized and can be sent. -/
theorem Sends.of_singleton {h : Handled} {x : Sent} (hsent : h.sent = [x])
    (hx : Authorized s r event document x.request) (hascii : x.request.headers.isAscii = true) :
    Sends s r h where
  atMostOnce := by
    rw [hsent]
    exact Nat.le_refl 1
  authorized call := by
    rw [hsent]
    constructor
    · rintro ⟨y, hy, rfl⟩
      obtain rfl := List.mem_singleton.mp hy
      exact ⟨⟨event, document, hx⟩, hascii⟩
    · rintro ⟨⟨event', document', hcall⟩, -⟩
      exact ⟨x, List.mem_singleton_self x, hx.unique hcall⟩

/-- A request with an authorized call sends it, if its headers can be sent. -/
theorem handle_sent_of_authorized {call : Outbound} (h : Authorized s r event document call) :
    (handle s schedule generated r).sent =
      if call.headers.isAscii then [⟨call, schedule.watch.cancelled⟩] else [] := by
  have hroute := h.delivers.route
  have hplan := (plan_eq_relay_iff hroute).mpr ⟨event, document, h⟩
  rw [handle_sent, respond_of_delivery hroute, sent_of_relay hplan]

/-- A request without an authorized call sends nothing. -/
theorem handle_sent_eq_nil (h : ∀ call event document, ¬ Authorized s r event document call) :
    (handle s schedule generated r).sent = [] := by
  refine List.eq_nil_iff_forall_not_mem.mpr fun x hx => ?_
  obtain ⟨hroute, call, hplan⟩ := relay_of_sent hx
  obtain ⟨event, document, hcall⟩ := (plan_eq_relay_iff hroute).mp hplan
  exact h call event document hcall

/-- Handling one request sends as it must. -/
theorem handle_sends (s : Settings) (schedule : Schedule) (generated : String) (r : Request) :
    Sends s r (handle s schedule generated r) := by
  by_cases hany : ∃ call event document, Authorized s r event document call
  · obtain ⟨call, event, document, h⟩ := hany
    by_cases hascii : call.headers.isAscii = true
    · refine Sends.of_singleton ?_ h hascii (x := ⟨call, schedule.watch.cancelled⟩)
      rw [handle_sent_of_authorized h, if_pos hascii]
    · refine Sends.of_nil ?_ fun call' _ _ h' => ?_
      · rw [handle_sent_of_authorized h, if_neg hascii]
      · rw [← h.unique h']
        exact Bool.eq_false_iff.mpr hascii
  · have hnone : ∀ call event document, ¬ Authorized s r event document call :=
      fun call event document h => hany ⟨call, event, document, h⟩
    exact Sends.of_nil (handle_sent_eq_nil hnone) fun call event document h =>
      absurd h (hnone call event document)

/-! ## One request after another -/

/-- **The target is called only with authority**: whatever requests come one after another, and
whatever the target does, at most one call reaches it for each of them, and exactly if it is
authorized and its headers can be sent. -/
theorem serve_sends (s : Settings) (arrivals : List Arrival) :
    List.Forall₂ (fun a h => Sends s a.request h) arrivals (serve s arrivals) := by
  induction arrivals with
  | nil => exact .nil
  | cons a rest ih => exact .cons (handle_sends s a.schedule a.generated a.request) ih

end Application

end Handling

end WebhookRelay
