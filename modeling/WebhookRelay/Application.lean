import WebhookRelay.Card
import WebhookRelay.Delivery
import WebhookRelay.Host
import WebhookRelay.Platform
import WebhookRelay.Settings
import WebhookRelay.Signature
import WebhookRelay.Template

/-!
# The application

A delivery is checked, filtered, turned into the content to relay, and relayed. Everything up to the
relaying is decided by the settings and the request alone.

- `Request`, `Response`: what comes in and what goes out.
- `Request.route`: where a request goes by its method and path.
- `plan`: what is to be done with a delivery.
- `Application.handle`: the answer to a request, what reached the target, and the records.
- `Application.serve`: the answers to requests that come one after another.
- `Application.started`, `Application.stopped`: the records of its life.
-/

namespace WebhookRelay

/-- A request of a caller. The path has no query. -/
structure Request where
  method : String
  path : String
  headers : Headers
  body : ByteArray

/-- A response to a caller. -/
structure Response where
  status : Nat
  headers : Headers
  body : ByteArray

/-! ## The address of a request -/

namespace Request

/-- The path of a request as its address shows it: the host and the path are read together, without
tabs and line ends, and the path ends where a query or a fragment begins. -/
def addressPath (r : Request) : Except Failure String :=
  let host := (r.headers.first? "host").getD ""
  -- The host comes from a header, so it may hold anything.
  let address := (host ++ r.path).toList.filter fun c => c != '\t' && c != '\n' && c != '\r'
  let isEnd (c : Char) : Bool := c = '/' || c = '?' || c = '#'
  if Host.isReadable (address.takeWhile (!isEnd ·)) then
    .ok (String.ofList
      ((address.dropWhile (!isEnd ·)).takeWhile fun c => c != '?' && c != '#'))
  else .error (.crash .hostBrackets)

/-- The event that a request announces, as it came. -/
def rawEvent (r : Request) : Option String := r.headers.first? "X-GitHub-Event"

/-- The identity of a request in records and responses: its own, or else a generated one. -/
def traceId (r : Request) (generated : String) : String :=
  match r.headers.first? "x-trace-id" with
  | some id => if id.isEmpty then generated else id
  | none => generated

end Request

/-! ## Where a request goes -/

/-- Where a request goes. -/
inductive Route where
  /-- It asks for a page about the relay. -/
  | documentation (page : Page)
  /-- It asks whether the relay works. -/
  | health
  | delivery
  /-- Deliveries are not taken at its path, but at this one. -/
  | elsewhere (path : String)
  | nowhere
deriving DecidableEq, Repr

/-- Are deliveries taken at a path? They are taken at every path that begins with a slash and has no
line end, except perhaps as its last character. -/
def isDeliveryPath (path : String) : Bool :=
  match path.toList with
  | '/' :: rest => !rest.dropLast.contains '\n'
  | _ => false

/-- The path without the slashes at its end, or with one if it has none. -/
def otherPath (path : String) : String :=
  if path.toList.getLast? = some '/' then
    String.ofList (Text.trimEndBy (· = '/') path.toList)
  else path ++ "/"

/-- Is this the path of a certain place? A line end may follow it. -/
def isAt (place path : String) : Bool :=
  path = place || path = place ++ "\n"

/-- The page that a request asks for. -/
def Request.page? (r : Request) : Option Page :=
  if r.method = "GET" || r.method = "HEAD" then Page.all.find? fun page => isAt page.path r.path
  else none

/-- Where a request goes by its method and path. -/
def Request.route (r : Request) : Route :=
  match r.page? with
  | some page => .documentation page
  | none =>
    if r.method = "GET" && isAt "/health" r.path then .health
    else if isDeliveryPath r.path then .delivery
    else if isDeliveryPath (otherPath r.path) then .elsewhere (otherPath r.path)
    else .nowhere

/-- The event that a header announces; blanks around the name do not count. -/
def Event.ofHeader? (raw : Option String) : Option Event :=
  raw.bind fun s => Event.ofName? (Text.trim s)

/-! ## Planning -/

/-- What is to be done with a delivery. -/
inductive Plan where
  | drop
  | relay (request : Outbound)

/-- The card of an event body: the four templates are rendered one after another. -/
def renderCard (s : Settings) (document : Json) : Logged Failure MessageCard := do
  let summary ← Template.render s.msTeamsSummaryTemplate document
  let title ← Template.render s.msTeamsTitleTemplate document
  let subtitle ← Template.render s.msTeamsSubtitleTemplate document
  let actionUri ← Template.render s.msTeamsActionTemplateUrl document
  return MessageCard.build
    ⟨summary, title, subtitle, actionUri, s.msTeamsActionName, s.msTeamsThemeColor⟩

/-- What is relayed for an event body: a card, or the body as it came. -/
def content (s : Settings) (document : Json) (body : ByteArray) : Logged Failure ByteArray :=
  if s.adaptToMsTeamsWebhook then do
    let card ← renderCard s document
    return card.payload.spaced.toUTF8
  else return body

/-- The name under which the handling of deliveries leaves records. -/
def routeLogger : String := "hookrelay.api.routes.webhook"

/-- The first four checks: they need no settings. The result is the event and the text of the
body. -/
def checkForm (r : Request) : Except Failure (Event × String) := do
  if r.method != "POST" then throw (.fault (.request .method))
  let contentType := (r.headers.first? "content-type").getD ""
  if !"application/json".toList.isPrefixOf contentType.toList then
    throw (.fault (.request .mediaType))
  match Event.ofHeader? r.rawEvent with
  | none => throw (.fault (.request (.eventName r.rawEvent)))
  | some event =>
    match String.fromUTF8? r.body with
    | none => throw (.fault (.request .bodyText))
    | some text => return (event, text)

/-- The check that the caller knows the secret. -/
def checkSignature (s : Settings) (r : Request) : Except Failure Unit :=
  match Signature.verify s.secretToken (r.headers.first? "X-Hub-Signature-256") r.body with
  | .error f => .error (.config f)
  | .ok false => .error (.fault .auth)
  | .ok true => .ok ()

/-- What it means that a body cannot be read. An integer with too many digits is not expected
there. -/
def failureOfBody (e : Json.ReadError) : Failure :=
  if e.problem = .overlongInteger then .crash .overlongInteger else .fault (.request (.bodyJson e))

section Handling

variable [Platform]

/-- The document in a body, if there is room for it on the stack. -/
def readBody (text : String) : Except Failure Json :=
  if Json.depth text ≤ Platform.room text then (Json.read text).mapError failureOfBody
  else .error (.crash .nestedTooDeep)

/-- The action for an event and its document. -/
def decide (c : MatchConfig) (event : Event) (document : Json) : Logged Failure Action := do
  let filter := c.filterFor event
  let outcome ← Match.of filter.predicate document
  let action := outcome.resolve filter.action c.unmatchedDefault
  .say .debug routeLogger
    s!"Event {event.name} filtering outcome: {outcome.name}, action: {action.name}" []
  return action

/-- What is to be done with a delivery whose action is known. -/
def planFor (s : Settings) (r : Request) (document : Json) : Action → Logged Failure Plan
  | .drop => return .drop
  | .relay => do
    -- Templates are rendered only now, so that their faults never hide a drop.
    let body ← content s document r.body
    return .relay ⟨r.method, s.targetUrl, r.headers.selectForwarded s.forwardedHeaders, body⟩

/-- What is to be done with a delivery: the checks come first, then the filter, then the content. -/
def plan (s : Settings) (r : Request) : Logged Failure Plan := do
  let (event, text) ← .of (checkForm r)
  .of (checkSignature s r)
  let document ← .of (readBody text)
  let path ← .of r.addressPath
  .say .debug routeLogger s!"Received {event.name} event on {path}" []
  planFor s r document (← decide s.matchConfig event document)

end Handling

/-! ## Answering -/

/-- A response with its length among the headers, where a response may have a body. -/
def Response.withLength (status : Nat) (headers : Headers) (body : ByteArray) : Response :=
  let length := if status < 200 || status = 204 || status = 304 then []
    else [("content-length", toString body.size)]
  ⟨status, headers ++ length, body⟩

/-- A response with plain text. -/
def Response.text (status : Nat) (text : String) (headers : Headers) : Response :=
  .withLength status (("content-type", "text/plain; charset=utf-8") :: headers) text.toUTF8

/-- The answer when nothing else can be said. -/
def Response.unhandled : Response := .text 500 "Internal Server Error" []

/-- The answer to a delivery that is filtered out. -/
def Response.dropped : Response := .text 202 "Dropped by proxy" []

/-- The answer to the question whether the relay works. -/
def Response.health : Response :=
  .withLength 200 [("content-type", "application/json")]
    (Json.object [("status", .string "healthy"), ("service", .string "hookrelay"),
      ("version", .string "1.0.0")]).compact.toUTF8

/-- The answer to the question for a page. -/
def Response.documentation [Platform] (page : Page) : Response :=
  .withLength 200 [("content-type", page.mediaType)] (Platform.page page)

/-- The answer when nothing is at a path. -/
def Response.notFound : Response :=
  .withLength 404 [("content-type", "application/json")]
    (Json.object [("detail", .string "Not Found")]).compact.toUTF8

/-- The answer that names another path of the same host. -/
def Response.elsewhere (r : Request) (path : String) : Response :=
  let address := match r.headers.first? "host" with
    | some host => "http://" ++ host ++ path
    | none => path
  .withLength 307 [Headers.location address] .empty

/-- The answer that hands on the target's response. -/
def Response.relayed (r : TargetResponse) : Except Failure Response :=
  let headers := Headers.passThrough r.headers
  if headers.isLatin then .ok (.withLength r.status headers r.body)
  else .error (.crash .headerText)

/-- The answer to a fault. -/
def Response.ofFault (f : Fault) : Response :=
  .text f.status f.message (if f = .request .method then [("allow", "POST")] else [])

/-- Who a fault is to be blamed on, how gravely it is recorded, and in which words. -/
def Fault.report (f : Fault) : String × Log.Level × String :=
  match f with
  | .config _ =>
    ("operator_misconfiguration", .error, "operator_misconfiguration: " ++ f.message)
  | .relay _ => ("relay", .error, "relay_failed: " ++ f.message)
  | .auth => ("caller", .warning, "signature_rejected")
  | .request _ => ("caller", .info, "request_rejected: " ++ f.message)

/-- Put the identity of the request on a response, in place of any other. -/
def Response.withTraceId (id : String) (r : Response) : Response :=
  { r with headers := r.headers.filter (·.1 != "x-trace-id") ++ [("x-trace-id", id)] }

/-- What handling a request leads to. -/
structure Handled where
  response : Response
  sent : List Sent
  records : List Log.Record

namespace Application

/-- The name under which faults leave records. -/
def faultLogger : String := "hookrelay.errors.handlers"

/-- Answer a fault and record it. -/
def answerFault (r : Request) (traceId : String) (f : Fault) : Logged Failure Response := do
  let path ← .of r.addressPath
  let (kind, level, message) := f.report
  .say level faultLogger message
    [("path", .string path), ("method", .string r.method), ("trace_id", .string traceId),
      ("error_code", .string f.code), ("error_kind", .string kind)]
  return .ofFault f

section Handling

variable [Platform]

/-- The response to a delivery, and what reached the target. -/
def respondToDelivery (s : Settings) (schedule : Schedule) (r : Request) :
    List Sent × Logged Failure Response :=
  let planned := plan s r
  match planned.result with
  | .error e => ([], ⟨planned.records, .error e⟩)
  | .ok .drop => ([], ⟨planned.records, .ok .dropped⟩)
  | .ok (.relay request) =>
    let d := deliverUnlessDisconnected request schedule
    (d.sent, do
      let response ← (⟨planned.records ++ d.outcome.records, d.outcome.result⟩ :
        Logged Failure TargetResponse)
      .of (Response.relayed response))

/-- The response to a request, and what reached the target. -/
def respond (s : Settings) (schedule : Schedule) (r : Request) :
    List Sent × Logged Failure Response :=
  match r.route with
  | .documentation page => ([], return .documentation page)
  | .health => ([], return .health)
  | .elsewhere path => ([], return .elsewhere r path)
  | .nowhere => ([], return .notFound)
  | .delivery => respondToDelivery s schedule r

/-- Handle a request. `generated` is the identity that a request without one gets, and `schedule` is
what would happen while the target is waited for. -/
def handle (s : Settings) (schedule : Schedule) (generated : String) (r : Request) : Handled :=
  let id := r.traceId generated
  let (sent, first) := respond s schedule r
  -- A fault is answered and recorded; a crash stays one, and so does one on the way to the answer.
  let final : Logged Failure Response :=
    match first.result with
    | .error (.fault f) =>
      let answer := answerFault r id f
      ⟨first.records ++ answer.records, answer.result⟩
    | _ => first
  -- What has no answer does not pass where identities are put on.
  let response :=
    match final.result with
    | .ok response => response.withTraceId id
    | .error _ => .unhandled
  ⟨response, sent, final.records⟩

/-- What comes to an application: a request, the identity that it gets if it has none, and what
would happen while the target is waited for. -/
structure Arrival where
  request : Request
  generated : String
  schedule : Schedule

/-- Handle requests one after another. Nothing is kept from one for the next. -/
def serve (s : Settings) : List Arrival → List Handled
  | [] => []
  | a :: rest => handle s a.schedule a.generated a.request :: serve s rest

end Handling

/-! ## The life of an application -/

/-- The name under which the application itself leaves records. -/
def logger : String := "hookrelay.main"

/-- The record of a start. -/
def started (s : Settings) : Log.Record :=
  let count := s.matchConfig.filters.length
  ⟨.info, logger, s!"Webhook relay started (target={s.targetUrl}, filtered_events={count})", []⟩

/-- The record of a stop. -/
def stopped : Log.Record := ⟨.info, logger, "Webhook relay shutdown complete", []⟩

/-- The client for calls to the target: the application's own, which has the timeout of the settings
and is closed at the end, or one that belongs to someone else. -/
inductive Client where
  | own (timeoutSeconds : Binary64)
  | foreign
deriving DecidableEq, Repr

/-- The client of an application. -/
def client (s : Settings) (own : Bool) : Client :=
  if own then .own s.relayTimeoutSeconds else .foreign

/-- Is the client closed when the application stops? -/
def Client.closes : Client → Bool
  | .own _ => true
  | .foreign => false

end Application

end WebhookRelay
