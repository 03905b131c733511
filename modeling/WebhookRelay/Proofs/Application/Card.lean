import WebhookRelay.Proofs.Application.Answer
import WebhookRelay.Proofs.Json.RoundTrip

/-!
# The card that is sent

The bytes that reach the target are the text of a card, and the card that is read back from them
holds the texts of the templates character for character. If a template has no text, nothing is sent
and the first such template decides about the answer: a fault in it is answered as the operator's,
and a crash is not answered.

- `MessageCard.exact_payload`: every card is read back from its text.
- `renderCard_of_ok`, `renderCard_of_first_error`: the card, by the texts of the templates.
- `Application.SendsCard`: what the delivery of a card leads to.
-/

namespace WebhookRelay

/-! ## Cards as JSON -/

open Json (Exact)

/-- All strings of an array are read back. -/
theorem Json.Exact.array_map {α : Type} {f : α → Json} (h : ∀ a, Exact (f a)) (items : List α) :
    Exact (.array (items.map f)) := by
  refine .array fun v hv => ?_
  obtain ⟨a, _, rfl⟩ := List.mem_map.mp hv
  exact h a

/-- Every fact is read back. -/
theorem Fact.exact_payload (f : Fact) : Exact f.payload := by
  refine .object (by simp) ?_
  simp [Exact.string]

/-- Every section is read back, whichever of its members are there. -/
theorem Section.exact_payload (s : Section) : Exact s.payload := by
  obtain ⟨title, subtitle, image, facts, markdown⟩ := s
  refine .object ?_ ?_
  · cases image <;> cases facts <;> cases markdown <;> simp
  · have hfacts := fun fs => Exact.array_map Fact.exact_payload fs
    cases image <;> cases facts <;> cases markdown <;> simp [Exact.string, Exact.bool, hfacts]

/-- Every target is read back. -/
theorem Target.exact_payload (t : Target) : Exact t.payload := by
  refine .object (by simp) ?_
  simp [Exact.string]

/-- Every action is read back. -/
theorem PotentialAction.exact_payload (a : PotentialAction) : Exact a.payload := by
  refine .object (by simp) ?_
  simp [Exact.string, Exact.array_map Target.exact_payload]

/-- Every card is read back. -/
theorem MessageCard.exact_payload (c : MessageCard) : Exact c.payload := by
  refine .object (by simp) ?_
  simp [Exact.string, Exact.array_map Section.exact_payload,
    Exact.array_map PotentialAction.exact_payload]

/-- The bytes of a text are the text. -/
theorem fromUTF8?_toUTF8 (s : String) : String.fromUTF8? s.toUTF8 = some s := by
  unfold String.fromUTF8?
  simp [String.fromUTF8, s.isValidUTF8]

/-- A card is read back from its bytes. -/
theorem MessageCard.read_payload (c : MessageCard) :
    ∃ text, String.fromUTF8? c.payload.spaced.toUTF8 = some text ∧ Json.read text = .ok c.payload :=
  ⟨c.payload.spaced, fromUTF8?_toUTF8 _, Json.read_spaced c.exact_payload⟩

/-! ## The texts of a card -/

variable {s : Settings} {document : Json}

/-- The templates of a card in the order in which they are rendered. -/
def Settings.cardTemplates (s : Settings) : List String :=
  [s.msTeamsSummaryTemplate, s.msTeamsTitleTemplate, s.msTeamsSubtitleTemplate,
    s.msTeamsActionTemplateUrl]

/-- The card with these texts, as it is to be read by the target. -/
def cardWith (s : Settings) (summary title subtitle uri : String) : Json :=
  .object [("@type", .string "MessageCard"),
    ("@context", .string "https://schema.org/extensions"),
    ("themeColor", .string s.msTeamsThemeColor),
    ("summary", .string summary),
    ("sections", .array [.object [("activityTitle", .string title),
      ("activitySubtitle", .string subtitle)]]),
    ("potentialAction", .array [.object [("@type", .string "OpenUri"),
      ("name", .string s.msTeamsActionName),
      ("targets", .array [.object [("os", .string "default"), ("uri", .string uri)]])]])]

/-- If all templates have a text, the card is made of these texts. -/
theorem renderCard_of_ok {summary title subtitle uri : String}
    (hsummary : (Template.render s.msTeamsSummaryTemplate document).result = .ok summary)
    (htitle : (Template.render s.msTeamsTitleTemplate document).result = .ok title)
    (hsubtitle : (Template.render s.msTeamsSubtitleTemplate document).result = .ok subtitle)
    (huri : (Template.render s.msTeamsActionTemplateUrl document).result = .ok uri) :
    ∃ card, (renderCard s document).result = .ok card ∧
      card.payload = cardWith s summary title subtitle uri := by
  let card := MessageCard.build
    ⟨summary, title, subtitle, uri, s.msTeamsActionName, s.msTeamsThemeColor⟩
  refine ⟨card, ?_, rfl⟩
  unfold renderCard
  rw [Logged.result_bind_of_ok hsummary, Logged.result_bind_of_ok htitle,
    Logged.result_bind_of_ok hsubtitle, Logged.result_bind_of_ok huri, Logged.result_pure]

/-- If some template has no text, there is no card, and the first such template tells why. -/
theorem renderCard_of_first_error {before after : List String} {template : String} {e : Failure}
    (hsplit : s.cardTemplates = before ++ template :: after)
    (hbefore : ∀ t ∈ before, ∃ text, (Template.render t document).result = .ok text)
    (h : (Template.render template document).result = .error e) :
    (renderCard s document).result = .error e := by
  unfold renderCard
  -- The templates before it have texts, so the rendering goes on as far as this one.
  obtain _ | ⟨first, _ | ⟨second, _ | ⟨third, _ | ⟨fourth, rest⟩⟩⟩⟩ := before
  all_goals
    simp only [Settings.cardTemplates, List.cons_append, List.nil_append, List.cons.injEq,
      List.nil_eq, List.append_eq_nil_iff, reduceCtorEq, and_false] at hsplit
  · obtain ⟨rfl, -⟩ := hsplit
    exact Logged.result_bind_of_error h _
  · obtain ⟨rfl, rfl, -⟩ := hsplit
    obtain ⟨summary, hsummary⟩ := hbefore _ (.head _)
    rw [Logged.result_bind_of_ok hsummary]
    exact Logged.result_bind_of_error h _
  · obtain ⟨rfl, rfl, rfl, -⟩ := hsplit
    obtain ⟨summary, hsummary⟩ := hbefore _ (.head _)
    obtain ⟨title, htitle⟩ := hbefore _ (.tail _ (.head _))
    rw [Logged.result_bind_of_ok hsummary, Logged.result_bind_of_ok htitle]
    exact Logged.result_bind_of_error h _
  · obtain ⟨rfl, rfl, rfl, rfl, -⟩ := hsplit
    obtain ⟨summary, hsummary⟩ := hbefore _ (.head _)
    obtain ⟨title, htitle⟩ := hbefore _ (.tail _ (.head _))
    obtain ⟨subtitle, hsubtitle⟩ := hbefore _ (.tail _ (.tail _ (.head _)))
    rw [Logged.result_bind_of_ok hsummary, Logged.result_bind_of_ok htitle,
      Logged.result_bind_of_ok hsubtitle]
    exact Logged.result_bind_of_error h _

/-! ## The delivery of a card -/

variable {schedule : Schedule} {generated : String} {r : Request} {event : Event}

/-- The content of a delivery is the card, if a card is to be made. -/
theorem content_of_card {card : MessageCard} (hadapt : s.adaptToMsTeamsWebhook = true)
    (h : (renderCard s document).result = .ok card) (body : ByteArray) :
    (content s document body).result = .ok card.payload.spaced.toUTF8 := by
  unfold content
  rw [if_pos hadapt, Logged.result_bind_of_ok h, Logged.result_pure]

/-- Without a card there is no content. -/
theorem content_of_card_error {e : Failure} (hadapt : s.adaptToMsTeamsWebhook = true)
    (h : (renderCard s document).result = .error e) (body : ByteArray) :
    (content s document body).result = .error e := by
  unfold content
  rw [if_pos hadapt, Logged.result_bind_of_error h]

/-- What is answered when nothing else can be said is no fault of a template. -/
theorem unhandled_body_ne_message (template : String) (cause : ConfigFault) :
    Response.unhandled.body ≠ (ConfigFault.template template cause).message.toUTF8 := by
  intro h
  have hbody : Response.unhandled.body = "Internal Server Error".toUTF8 := rfl
  have hmessage : (ConfigFault.template template cause).message =
      "Could not render template " ++ Text.quoted template ++ ": " ++ cause.message := rfl
  rw [hbody, hmessage, String.toUTF8_eq_toByteArray, String.toUTF8_eq_toByteArray,
    String.toByteArray_inj] at h
  -- The two texts differ in their first character.
  have hhead := congrArg (fun text => text.toList.head?) h
  simp at hhead

/-- Settings with the secret `k` under which a card with these templates is sent for every
document. -/
def Settings.cardOf (summary title subtitle uri : String) : Settings :=
  { secretToken := "k"
    unmatchedEventAction := .relay
    msTeamsSummaryTemplate := summary
    msTeamsTitleTemplate := title
    msTeamsSubtitleTemplate := subtitle
    msTeamsActionTemplateUrl := uri }

namespace Application

section Handling

variable [Platform]

/-- What the delivery of a card leads to. -/
structure SendsCard (s : Settings) (schedule : Schedule) (generated : String) (r : Request)
    (document : Json) : Prop where
  /-- If all templates have a text, the bytes that are sent are read as the card with these texts,
  and nothing else is sent. -/
  rendered : ∀ summary title subtitle uri,
    (Template.render s.msTeamsSummaryTemplate document).result = .ok summary →
    (Template.render s.msTeamsTitleTemplate document).result = .ok title →
    (Template.render s.msTeamsSubtitleTemplate document).result = .ok subtitle →
    (Template.render s.msTeamsActionTemplateUrl document).result = .ok uri →
    ∃ bytes text, String.fromUTF8? bytes = some text ∧
      Json.read text = .ok (cardWith s summary title subtitle uri) ∧
      (handle s schedule generated r).sent =
        if (r.headers.selectForwarded s.forwardedHeaders).isAscii then
          [⟨⟨"POST", s.targetUrl, r.headers.selectForwarded s.forwardedHeaders, bytes⟩,
            schedule.watch.cancelled⟩]
        else []
  /-- The first template that has no text for a fault is named in the answer, with the cause, and
  nothing is sent. -/
  faulty : ∀ before template after f, s.cardTemplates = before ++ template :: after →
    (∀ t ∈ before, ∃ text, (Template.render t document).result = .ok text) →
    (Template.render template document).result = .error (.fault f) →
    ∃ cause, f = .config (.template template cause) ∧
      (handle s schedule generated r).response =
        (Response.text 500
          ("Could not render template " ++ Text.quoted template ++ ": " ++ cause.message)
          []).withTraceId (r.traceId generated) ∧
      (handle s schedule generated r).sent = []
  /-- If the first template that has no text crashes, there is no answer, and nothing is sent. -/
  crashed : ∀ before template after c, s.cardTemplates = before ++ template :: after →
    (∀ t ∈ before, ∃ text, (Template.render t document).result = .ok text) →
    (Template.render template document).result = .error (.crash c) →
    (handle s schedule generated r).response = .unhandled ∧
      (handle s schedule generated r).sent = []

/-- **The target reads the card that the templates rendered**: whatever characters their texts hold.
If a template has no text, nothing is sent, and the first such template decides about the answer. -/
theorem handle_sendsCard (s : Settings) (schedule : Schedule) (generated : String) (r : Request)
    (event : Event) (document : Json) (hadapt : s.adaptToMsTeamsWebhook = true)
    (hd : r.Delivers s event document) (hrelays : Relays s.matchConfig event document) :
    SendsCard s schedule generated r document where
  rendered summary title subtitle uri hsummary htitle hsubtitle huri := by
    obtain ⟨card, hcard, hpayload⟩ := renderCard_of_ok hsummary htitle hsubtitle huri
    obtain ⟨text, hbytes, hread⟩ := card.read_payload
    have hcontent := content_of_card hadapt hcard r.body
    refine ⟨card.payload.spaced.toUTF8, text, hbytes, ?_, ?_⟩
    · rw [hread, hpayload]
    · rw [handle_sent_of_authorized (.of_content hd hrelays hcontent)]
  faulty before template after f hsplit hbefore h := by
    obtain ⟨cause, rfl⟩ := Template.fault_of_render h
    obtain ⟨path, hpath⟩ := hd.address
    have hcontent := content_of_card_error hadapt
      (renderCard_of_first_error hsplit hbefore h) r.body
    have hplan := plan_of_content_error hd hrelays hcontent
    obtain ⟨hresponse, hsent⟩ := handle_of_plan_fault hd.route hpath hplan
    exact ⟨cause, rfl, hresponse, hsent⟩
  crashed before template after c hsplit hbefore h := by
    have hcontent := content_of_card_error hadapt
      (renderCard_of_first_error hsplit hbefore h) r.body
    exact handle_of_plan_crash hd.route (plan_of_content_error hd hrelays hcontent)

end Handling

attribute [local instance] Platform.bare

/-- A push for which all templates have fixed texts, with characters that have to be escaped and a
line separator: the target reads these texts. -/
theorem handle_sendsCard_of_escapes :
    (Settings.cardOf "\"\\\n" "\u2028" "|" "").adaptToMsTeamsWebhook = true ∧
      Request.signedPush.Delivers (.cardOf "\"\\\n" "\u2028" "|" "") .push (.object []) ∧
      Relays (Settings.cardOf "\"\\\n" "\u2028" "|" "").matchConfig .push (.object []) ∧
      ∃ bytes text, String.fromUTF8? bytes = some text ∧
        Json.read text = .ok
          (cardWith (.cardOf "\"\\\n" "\u2028" "|" "") "\"\\\n" "\u2028" "|" "") ∧
        (handle (.cardOf "\"\\\n" "\u2028" "|" "") .unasked "id"
          Request.signedPush).sent.map (·.request.body) = [bytes] := by
  have hd : Request.signedPush.Delivers (.cardOf "\"\\\n" "\u2028" "|" "") .push (.object []) :=
    Request.signedPush_delivers (by decide) rfl
  have hcard := handle_sendsCard _ .unasked "id" _ _ _ rfl hd ⟨.absent, rfl, rfl⟩
  obtain ⟨bytes, text, hbytes, hread, hsent⟩ := hcard.rendered _ _ _ _ rfl rfl rfl rfl
  refine ⟨rfl, hd, ⟨.absent, rfl, rfl⟩, bytes, text, hbytes, hread, ?_⟩
  have hascii : (Request.signedPush.headers.selectForwarded
      (Settings.cardOf "\"\\\n" "\u2028" "|" "").forwardedHeaders).isAscii = true := by
    decide +kernel
  rw [hsent, if_pos hascii]
  rfl

/-- A placeholder whose named operator has broken arguments has no text, and the answer does not
name its template. -/
theorem body_ne_message_of_operator :
    Request.signedPush.Delivers (.cardOf "|$.`sub(x)`|" "" "" "") .push (.object []) ∧
      Relays (Settings.cardOf "|$.`sub(x)`|" "" "" "").matchConfig .push (.object []) ∧
      (Template.render "|$.`sub(x)`|" (.object [])).result = .error (.crash .badDefinition) ∧
      ∀ cause, (handle (.cardOf "|$.`sub(x)`|" "" "" "") .unasked "id"
        Request.signedPush).response.body ≠
          (ConfigFault.template "|$.`sub(x)`|" cause).message.toUTF8 := by
  have hd : Request.signedPush.Delivers (.cardOf "|$.`sub(x)`|" "" "" "") .push (.object []) :=
    Request.signedPush_delivers (by decide) rfl
  have hrelays : Relays (Settings.cardOf "|$.`sub(x)`|" "" "" "").matchConfig .push (.object []) :=
    ⟨.absent, rfl, rfl⟩
  have hrender : (Template.render "|$.`sub(x)`|" (.object [])).result =
      .error (.crash .badDefinition) := by rfl
  refine ⟨hd, hrelays, hrender, fun cause hbody => ?_⟩
  have hsplit : (Settings.cardOf "|$.`sub(x)`|" "" "" "").cardTemplates =
      [] ++ "|$.`sub(x)`|" :: ["", "", ""] := rfl
  have hcard := renderCard_of_first_error hsplit nofun hrender
  have hcontent := content_of_card_error rfl hcard Request.signedPush.body
  have hplan := plan_of_content_error hd hrelays hcontent
  rw [(handle_of_plan_crash hd.route hplan).1] at hbody
  exact unhandled_body_ne_message _ cause hbody

end Application

end WebhookRelay
