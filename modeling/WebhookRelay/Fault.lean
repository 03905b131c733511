import WebhookRelay.Json.Reader
import WebhookRelay.Query.Memory
import WebhookRelay.Query.Reader
import WebhookRelay.Text.Quoted

/-!
# Faults

What can go wrong with a delivery. A fault is answered with its own status and message. A crash is
anything that the relay has no answer for.

- `ConfigFault`: the operator's settings cannot be used.
- `RequestFault`: the delivery is malformed.
- `Fault`: all faults; `Fault.code`, `Fault.status` and `Fault.message` give the answer.
- `Crash`, `Failure`: what has no answer, and either of the two.
-/

namespace WebhookRelay

/-- The operator's settings cannot be used. -/
inductive ConfigFault where
  /-- There is no secret to check signatures with. -/
  | secretMissing
  /-- An expression has an error. -/
  | querySyntax (expression : String) (error : Query.SyntaxError)
  /-- An expression meets values that it does not apply to. -/
  | queryFailed (expression : String)
  /-- An expression can be read but has no meaning. -/
  | queryUnsupported
  /-- A template holds an expression with one of the faults above. -/
  | template (source : String) (reason : ConfigFault)
deriving DecidableEq, Repr

namespace ConfigFault

/-- The wording of a fault, without the cause that the interpreter of queries gives at its end, and
without the path that it names if an expression has no meaning. -/
def message : ConfigFault → String
  | .secretMissing => "Crypto error (bad relay configuration?): webhook secret is not set"
  | .querySyntax expression error =>
    s!"Invalid query expression {Text.quoted expression}: {error.message}"
  | .queryFailed expression => s!"Query {Text.quoted expression} failed during evaluation"
  | .queryUnsupported => "Query cannot be evaluated"
  | .template source reason =>
    s!"Could not render template {Text.quoted source}: {reason.message}"

/-- The code of a fault. -/
def code : ConfigFault → String
  | .querySyntax _ _ => "QUERY_SYNTAX_ERROR"
  | .template _ _ => "TEMPLATE_ERROR"
  | _ => "CONFIG_ERROR"

end ConfigFault

/-- The delivery is malformed. -/
inductive RequestFault where
  | method
  | mediaType
  /-- The event is missing or unknown; the header is given as it came. -/
  | eventName (raw : Option String)
  /-- The body is no text. -/
  | bodyText
  /-- The body is no JSON. -/
  | bodyJson (error : Json.ReadError)
deriving DecidableEq, Repr

namespace RequestFault

/-- The wording of a fault. -/
def message : RequestFault → String
  | .method => "Unexpected HTTP method"
  | .mediaType => "Missing or bad content type header for a JSON payload"
  | .eventName raw => "Missing, invalid or unrecognized event name: " ++ raw.getD "None"
  | .bodyText => "The request body is not valid text"
  | .bodyJson error => s!"JSON parse error: {error.message}"

/-- The code of a fault. -/
def code : RequestFault → String
  | .method => "BAD_METHOD"
  | .mediaType => "UNSUPPORTED_MEDIA_TYPE"
  | _ => "REQUEST_ERROR"

/-- The status of the answer. -/
def status : RequestFault → Nat
  | .mediaType => 415
  | _ => 400

end RequestFault

/-- What can go wrong with a delivery. -/
inductive Fault where
  | request (f : RequestFault)
  /-- The signature is missing or wrong. -/
  | auth
  | config (f : ConfigFault)
  /-- The target could not be reached. -/
  | relay (reason : String)
deriving DecidableEq, Repr

namespace Fault

/-- The wording of a fault. -/
def message : Fault → String
  | .request f => f.message
  | .auth => "Missing or invalid GitHub webhook signature"
  | .config f => f.message
  | .relay reason => s!"Could not deliver event to target URL: {reason}"

/-- The code of a fault. -/
def code : Fault → String
  | .request f => f.code
  | .auth => "AUTH_ERROR"
  | .config f => f.code
  | .relay _ => "RELAY_ERROR"

/-- The status of the answer. -/
def status : Fault → Nat
  | .request f => f.status
  | .auth => 403
  | .config _ => 500
  | .relay _ => 500

end Fault

/-- What the relay has no answer for. -/
inductive Crash where
  /-- An array has no item with that number from the end. -/
  | indexOutOfRange
  /-- A number is too large for what is to be done with it. -/
  | overflow
  /-- An integer has more digits than are read or written. -/
  | overlongInteger
  /-- The containers of a body are nested deeper than the stack has room for. -/
  | nestedTooDeep
  /-- A named operator has broken arguments. -/
  | badDefinition
  /-- A pattern or a replacement cannot be read. -/
  | badPattern
  /-- The flags of a pattern exclude each other. -/
  | conflictingFlags
  /-- A replacement names a group that the pattern does not have. -/
  | unknownGroup
  /-- A header holds characters that cannot be sent. -/
  | headerText
  /-- The host of a request has brackets that do not enclose an address. -/
  | hostBrackets
  /-- The call to the target has failed in a way that calls are not expected to fail. -/
  | callBroken
  /-- The caller cannot be asked whether it is still there. -/
  | pollFailed
  /-- The waiting for the target was broken off. -/
  | interrupted
deriving DecidableEq, Repr

/-- Why a computation ends without a value. -/
inductive Failure where
  | fault (f : Fault)
  | crash (c : Crash)
deriving DecidableEq, Repr

/-- The settings cannot be used. -/
abbrev Failure.config (f : ConfigFault) : Failure := .fault (.config f)

end WebhookRelay
