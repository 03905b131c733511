import WebhookRelay.Fault
import WebhookRelay.Header
import WebhookRelay.Log.Record

/-!
# Delivery to the target

One request is sent to the target, and never a second one. While the target has not answered, the
caller is asked from time to time whether it is still there; if it is gone the call is abandoned.

- `Outbound`, `Reply`: what is sent, and what comes of it.
- `Schedule`: what happens while a call is waited for; `Schedule.watch` says how that ends.
- `deliver`, `deliverUnlessDisconnected`: send a request, without and with asking the caller.
-/

namespace WebhookRelay

/-- A request to the target. -/
structure Outbound where
  method : String
  url : String
  headers : Headers
  body : ByteArray

/-- The target's response. -/
structure TargetResponse where
  status : Nat
  headers : Headers
  body : ByteArray

/-- What comes of a call. -/
inductive Reply where
  | response (r : TargetResponse)
  /-- A failure that is expected of calls, of a kind and with a message of its own. -/
  | failure (kind message : String)
  /-- Any other failure. -/
  | broken

/-! ## Waiting -/

/-- What happens while a call is waited for, round by round. -/
inductive Schedule where
  /-- The call has finished in this round. -/
  | finished (reply : Reply)
  /-- The call has not finished, and the caller, when asked, is gone or is still there. -/
  | unfinished (gone : Bool) (rest : Schedule)
  /-- The call has not finished, and the caller cannot be asked. -/
  | unasked
  /-- The waiting itself is broken off. -/
  | interrupted

/-- How waiting ends. -/
inductive Ending where
  | replied (reply : Reply)
  | callerGone
  | pollFailed
  | interrupted

/-- The course of waiting for a call. -/
structure Watch where
  /-- How often the caller was asked. -/
  polls : Nat
  /-- Was the call cancelled before it had finished? -/
  cancelled : Bool
  ending : Ending

/-- Wait for a call. A call that has finished is never given up, even if the caller is gone; one
that has not is cancelled when the waiting ends. -/
def Schedule.watch : Schedule → Watch
  | .finished reply => ⟨0, false, .replied reply⟩
  | .unfinished true _ => ⟨1, true, .callerGone⟩
  | .unfinished false rest =>
    let w := rest.watch
    { w with polls := w.polls + 1 }
  | .unasked => ⟨1, true, .pollFailed⟩
  | .interrupted => ⟨0, true, .interrupted⟩

/-! ## Sending -/

/-- A request with which the target was called, and whether the call was cancelled. -/
structure Sent where
  request : Outbound
  cancelled : Bool

/-- What became of a delivery. -/
structure Delivery where
  sent : List Sent
  polls : Nat
  outcome : Logged Failure TargetResponse

/-- The name under which deliveries leave records. -/
def deliveryLogger : String := "hookrelay.relay.client"

/-- What a reply means for a delivery: a failure is a fault, with its kind for want of a message.
Any other failure is not caught. -/
def Reply.outcome (url : String) : Reply → Logged Failure TargetResponse
  | .response r => do
    .say .info deliveryLogger s!"Relayed event to {url} (status={r.status})" []
    return r
  | .failure kind message => do
    .say .warning deliveryLogger s!"Relay to {url} failed: {message}" []
    .fail (.fault (.relay (if message.isEmpty then kind else message)))
  | .broken => .fail (.crash .callBroken)

/-- What the end of waiting means for a delivery. -/
def Ending.outcome (url : String) : Ending → Logged Failure TargetResponse
  | .replied reply => reply.outcome url
  | .callerGone => do
    .say .info deliveryLogger s!"Caller disconnected, abandoning relay to {url}" []
    .fail (.fault (.relay "the inbound delivery was cancelled by the caller"))
  | .pollFailed => .fail (.crash .pollFailed)
  | .interrupted => .fail (.crash .interrupted)

/-- A delivery that cannot be sent: only ASCII headers can. -/
def unsendable : Delivery := ⟨[], 0, .fail (.crash .headerText)⟩

/-- Send a request and take the reply as it comes. -/
def deliver (request : Outbound) (reply : Reply) : Delivery :=
  if request.headers.isAscii then ⟨[⟨request, false⟩], 0, reply.outcome request.url⟩
  else unsendable

/-- Send a request and wait for the reply unless the caller goes away. -/
def deliverUnlessDisconnected (request : Outbound) (schedule : Schedule) : Delivery :=
  if request.headers.isAscii then
    let w := schedule.watch
    ⟨[⟨request, w.cancelled⟩], w.polls, w.ending.outcome request.url⟩
  else unsendable

end WebhookRelay
