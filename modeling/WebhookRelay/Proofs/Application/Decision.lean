import WebhookRelay.Proofs.Application.Answer

/-!
# From the filter to the answer

The filter of an event decides what becomes of its deliveries. Without a predicate that is the
default action. With one, the delivery is relayed if the document matches and the action is to relay
or if neither holds, and dropped otherwise. A predicate that cannot be used is the operator's fault,
and the delivery is neither relayed nor dropped.

- `Settings.withAction`: the same settings with another action for one event.
- `decide_of_absent`, `decide_of_found`, `decide_of_error`: the decision, by what the predicate says.
- `Application.handle_of_drop`, `Application.handle_of_fault`: the answer, by the decision.
- `Application.Decides`: how filter, decision and answer belong together.
-/

namespace WebhookRelay

variable {s : Settings} {c : MatchConfig} {event : Event} {document : Json}

/-! ## The decision -/

/-- Without a predicate the default action is taken. -/
theorem decide_of_absent (h : (c.filterFor event).predicate = none) :
    (decide c event document).result = .ok c.unmatchedDefault := by
  rw [decide_result, h, Match.result_of_none]
  rfl

/-- With a predicate that has been asked, the action to take depends on the answer. -/
theorem decide_of_found {expression : String} {found : Bool}
    (h : (c.filterFor event).predicate = some expression)
    (hfound : (Query.hasMatch expression document).result = .ok found) :
    ∃ action, (decide c event document).result = .ok action ∧
      (action = .relay ↔ ((c.filterFor event).action = some .relay ↔ found = true)) := by
  refine ⟨(if found then .matched else .unmatched : Match).resolve (c.filterFor event).action
    c.unmatchedDefault, ?_, Match.resolve_eq_relay_iff found _ _⟩
  rw [decide_result, h, Match.result_of_some, hfound]
  rfl

/-- With a predicate that cannot be asked, there is no action to take. -/
theorem decide_of_error {expression : String} {e : Failure}
    (h : (c.filterFor event).predicate = some expression)
    (herror : (Query.hasMatch expression document).result = .error e) :
    (decide c event document).result = .error e := by
  rw [decide_result, h, Match.result_of_some, herror]
  rfl

/-! ## Another action -/

/-- The action that is taken instead of another one. -/
def Action.opposite : Action → Action
  | .relay => .drop
  | .drop => .relay

/-- The same settings with another action for one event. -/
def Settings.withAction (s : Settings) (event : Event) (action : Option Action) : Settings :=
  { s with
    eventFilters := s.eventFilters.put event ⟨(s.matchConfig.filterFor event).predicate, action⟩ }

/-- The predicate stays as it is, and so do the filters of other events. -/
theorem filterFor_withAction (s : Settings) (event e : Event) (action : Option Action) :
    (s.withAction event action).matchConfig.filterFor e =
      if e = event then ⟨(s.matchConfig.filterFor event).predicate, action⟩
      else s.matchConfig.filterFor e :=
  filterFor_put s.eventFilters s.unmatchedEventAction event e _

/-- With another action for its event, the decision asks the same predicate. -/
theorem decide_withAction (s : Settings) (event : Event) (action : Option Action)
    (document : Json) :
    (decide (s.withAction event action).matchConfig event document).result =
      (Match.of (s.matchConfig.filterFor event).predicate document).result.map fun outcome =>
        outcome.resolve action s.unmatchedEventAction := by
  rw [decide_result, filterFor_withAction, if_pos rfl]
  rfl

/-- If there is a predicate, the decisions with the two actions are opposite on every document. -/
theorem decide_swap (h : (s.matchConfig.filterFor event).predicate ≠ none) (document : Json) :
    (decide (s.withAction event (some .relay)).matchConfig event document).result =
      (decide (s.withAction event (some .drop)).matchConfig event document).result.map
        Action.opposite := by
  rw [decide_withAction, decide_withAction]
  cases hp : (s.matchConfig.filterFor event).predicate with
  | none => exact absurd hp h
  | some expression =>
    rw [Match.result_of_some]
    cases (Query.hasMatch expression document).result with
    | error e => rfl
    | ok found => cases found <;> rfl

/-- An action that is not set leads to the same decisions as to drop. -/
theorem decide_unset (s : Settings) (event e : Event) (document : Json) :
    decide (s.withAction event none).matchConfig e document =
      decide (s.withAction event (some .drop)).matchConfig e document := by
  unfold decide
  rw [filterFor_withAction, filterFor_withAction]
  by_cases he : e = event
  · rw [if_pos he, if_pos he]
    simp only [Match.resolve_unset]
    rfl
  · rw [if_neg he, if_neg he]
    rfl

/-! ## The answer -/

namespace Application

variable {schedule : Schedule} {generated : String} {r : Request}

section Handling

variable [Platform]

/-- A delivery that is decided to be dropped is accepted, and nothing is sent for it. -/
theorem handle_of_drop (hd : r.Delivers s event document)
    (h : (decide s.matchConfig event document).result = .ok .drop) :
    (handle s schedule generated r).response =
        Response.dropped.withTraceId (r.traceId generated) ∧
      (handle s schedule generated r).sent = [] := by
  have hplan : (plan s r).result = .ok .drop := by
    rw [plan_result hd, h]
    rfl
  exact handle_of_plan_drop hd.route hplan

/-- A delivery for which no decision can be made is answered with the fault, and nothing is sent for
it. -/
theorem handle_of_fault {f : Fault} (hd : r.Delivers s event document)
    (h : (decide s.matchConfig event document).result = .error (.fault f)) :
    (handle s schedule generated r).response =
        (Response.ofFault f).withTraceId (r.traceId generated) ∧
      (handle s schedule generated r).sent = [] := by
  obtain ⟨path, hpath⟩ := hd.address
  exact handle_of_plan_fault hd.route hpath (plan_of_decide_error hd h)

/-- A delivery that is decided to be relayed, and for which there is content, sends one call, if its
headers can be sent. -/
theorem handle_of_relay {body : ByteArray} (hd : r.Delivers s event document)
    (h : (decide s.matchConfig event document).result = .ok .relay)
    (hbody : (content s document r.body).result = .ok body)
    (hascii : (r.headers.selectForwarded s.forwardedHeaders).isAscii = true) :
    (handle s schedule generated r).sent =
      [⟨⟨"POST", s.targetUrl, r.headers.selectForwarded s.forwardedHeaders, body⟩,
        schedule.watch.cancelled⟩] := by
  have hcall := Authorized.of_content hd (decide_eq_relay_iff.mp h) hbody
  rw [handle_sent_of_authorized hcall, if_pos hascii]

/-- An action that is not set leads to the same as to drop, for every request. -/
theorem handle_unset (s : Settings) (event : Event) (schedule : Schedule) (generated : String)
    (r : Request) :
    handle (s.withAction event none) schedule generated r =
      handle (s.withAction event (some .drop)) schedule generated r := by
  -- The filters are only looked at for the decision.
  have hplan : plan (s.withAction event none) r = plan (s.withAction event (some .drop)) r := by
    unfold plan
    simp only [decide_unset]
    rfl
  have hrespond : respond (s.withAction event none) schedule r =
      respond (s.withAction event (some .drop)) schedule r := by
    unfold respond respondToDelivery
    rw [hplan]
  unfold handle
  rw [hrespond]

/-- How the filter of an event, the decision on a document, and the answer to its delivery belong
together. -/
structure Decides (s : Settings) (schedule : Schedule) (generated : String) (r : Request)
    (event : Event) (document : Json) : Prop where
  /-- Without a predicate the default action is taken. -/
  absent : (s.matchConfig.filterFor event).predicate = none →
    (decide s.matchConfig event document).result = .ok s.unmatchedEventAction
  /-- With a predicate that has been asked, the delivery is relayed if the document matches and the
  action is to relay, or if neither holds. -/
  present : ∀ expression found, (s.matchConfig.filterFor event).predicate = some expression →
    (Query.hasMatch expression document).result = .ok found →
    ∃ action, (decide s.matchConfig event document).result = .ok action ∧
      (action = .relay ↔ ((s.matchConfig.filterFor event).action = some .relay ↔ found = true))
  /-- An action that is not set leads to the same as to drop, whatever is delivered. -/
  unset : ∀ r, handle (s.withAction event none) schedule generated r =
    handle (s.withAction event (some .drop)) schedule generated r
  /-- The other action leads to the opposite decision, whatever is delivered. -/
  swapped : (s.matchConfig.filterFor event).predicate ≠ none → ∀ document,
    (decide (s.withAction event (some .relay)).matchConfig event document).result =
      (decide (s.withAction event (some .drop)).matchConfig event document).result.map
        Action.opposite
  /-- A predicate that cannot be used is answered as the operator's fault, and nothing is sent. -/
  misconfigured : ∀ expression fault,
    (s.matchConfig.filterFor event).predicate = some expression →
    (Query.hasMatch expression document).result = .error (.config fault) →
    (handle s schedule generated r).response.status = 500 ∧
      (handle s schedule generated r).response.body = fault.message.toUTF8 ∧
      (handle s schedule generated r).sent = []
  /-- A delivery to be dropped is accepted, and nothing is sent, whatever the templates are. -/
  dropped : (decide s.matchConfig event document).result = .ok .drop →
    (handle s schedule generated r).response.status = 202 ∧
      (handle s schedule generated r).response.body = "Dropped by proxy".toUTF8 ∧
      (handle s schedule generated r).sent = []
  /-- A delivery to be relayed is sent with its content, if there is any and its headers can be
  sent. -/
  relayed : (decide s.matchConfig event document).result = .ok .relay →
    ∀ body, (content s document r.body).result = .ok body →
    (r.headers.selectForwarded s.forwardedHeaders).isAscii = true →
    (handle s schedule generated r).sent =
      [⟨⟨"POST", s.targetUrl, r.headers.selectForwarded s.forwardedHeaders, body⟩,
        schedule.watch.cancelled⟩]

/-- **The decision law**: for every delivery that has passed the checks, the filter of its event and
its document alone decide whether it is relayed or dropped, and a predicate that cannot be used leads
to neither. -/
theorem handle_decides (s : Settings) (schedule : Schedule) (generated : String) (r : Request)
    (event : Event) (document : Json) (hd : r.Delivers s event document) :
    Decides s schedule generated r event document where
  absent := decide_of_absent
  present _ _ := decide_of_found
  unset := handle_unset s event schedule generated
  swapped := decide_swap
  misconfigured expression fault h herror := by
    have hdecide := decide_of_error h herror
    obtain ⟨hresponse, hsent⟩ := handle_of_fault hd hdecide
    rw [hresponse]
    exact ⟨rfl, rfl, hsent⟩
  dropped h := by
    obtain ⟨hresponse, hsent⟩ := handle_of_drop hd h
    rw [hresponse]
    exact ⟨rfl, rfl, hsent⟩
  relayed h _ := handle_of_relay hd h

end Handling

attribute [local instance] Platform.bare

/-- A signed push whose document lacks what the filter asks for is dropped, since its action is to
relay. -/
theorem handle_decides_of_miss :
    Request.signedPush.Delivers
        { secretToken := "k", eventFilters := [(.push, ⟨some "$.a", some .relay⟩)] }
        .push (.object []) ∧
      (handle { secretToken := "k", eventFilters := [(.push, ⟨some "$.a", some .relay⟩)] }
        .unasked "id" Request.signedPush).response.status = 202 := by
  have hd : Request.signedPush.Delivers
      { secretToken := "k", eventFilters := [(.push, ⟨some "$.a", some .relay⟩)] }
      .push (.object []) := Request.signedPush_delivers (by decide) rfl
  have hdecides := handle_decides _ .unasked "id" _ _ _ hd
  exact ⟨hd, (hdecides.dropped (by rfl)).1⟩

end Application

end WebhookRelay
