import WebhookRelay.Dictionary
import WebhookRelay.Log.Message
import WebhookRelay.Log.Threshold

/-!
# Log output

Each record that is shown becomes one line. Besides what the record says, a line has the identity
and the event of the request that is being handled.

- `Log.Context`: what is known of the request that is being handled.
- `Log.Line`: the entries of one line.
- `Log.Layout`: how a line is written.
- `Log.Output`: where records go.
- `Log.run`: what a sequence of steps writes.
-/

namespace WebhookRelay.Log

/-! ## Context -/

/-- What is known of the request that is being handled. -/
structure Context where
  traceId : Option String := none
  eventName : Option String := none
deriving DecidableEq, Repr

namespace Context

/-- Add to a context. An empty event name tells nothing and changes nothing. -/
def bind (c : Context) (traceId eventName : String) : Context where
  traceId := some traceId
  eventName := if eventName.isEmpty then c.eventName else some eventName

/-- The entries that a context gives to a line. -/
def entries (c : Context) : List (String × Json) :=
  let entry (key : String) (value : Option String) : List (String × Json) :=
    (value.map fun s => (key, Json.string s)).toList
  entry "trace_id" c.traceId ++ entry "event_name" c.eventName

end Context

/-! ## Lines -/

/-- A record as it is given: the message still has its fields, which the arguments fill. -/
structure Call extends Record where
  arguments : List Json := []
  /-- The time of the record as it is written. -/
  time : String
deriving Repr

/-- The entries of one line. -/
abbrev Line := Dictionary String Json

/-- The name of the logger above all others. -/
def topLogger : String := "root"

/-- The level of a record as a line shows it. -/
def Level.label (level : Level) : String := level.name.toLower

/-- The name under which a line keeps its record; it is not shown. -/
def recordKey : String := "_record"

/-- Can a line be made of a record with these further entries? An entry cannot stand for the making
of the message, nor two of them together for the logger and the call. -/
def isPlain (extra : List (String × Json)) : Bool :=
  let has (key : String) : Bool := (extra.lookup key).isSome
  !has "getMessage" && !(has "_logger" && has "_name")

/-- The entries of a line, where the text of the message is known. The further entries of a record
replace entries of the same name; only the time is not replaced. -/
def line (context : Context) (call : Call) (text : String) : Line :=
  let logger := if call.logger.isEmpty then topLogger else call.logger
  let own := [("event", Json.string text)] ++ context.entries ++
    [("level", .string call.level.label), ("logger", .string logger)]
  let shown := call.extra.filter (·.1 != recordKey)
  (Dictionary.putAll own shown).put "timestamp" (.string call.time)

/-! ## Layouts -/

/-- How lines are written. -/
inductive Layout where
  | json
  | console
deriving DecidableEq, Repr

/-- A line as it is written. -/
inductive Written where
  | object (entries : Line)
  | text (s : String)
deriving Repr

/-- Fill up with spaces to a width. -/
def padTo (width : Nat) (s : String) : String :=
  String.ofList (s.toList.rightpad width ' ')

namespace Console

/-- What is written for an entry that has a place of its own. Only a text can be a level. -/
def column? (key : String) (v : Json) : Option String :=
  match key, v with
  | "timestamp", v => some v.display
  | "level", .string s => some ("[" ++ padTo 9 s ++ "]")
  | "level", _ => none
  | "event", v => some (padTo 30 v.display)
  | _, v => some ("[" ++ v.display ++ "]")

/-- The entries that have a place of their own, in the order of their places. -/
def columns : List String := ["timestamp", "level", "event", "logger", "logger_name"]

/-- The entries that stand below the line. -/
def sections : List String := ["stack", "exception"]

/-- The text that stands below the line under a key, if there is one; it has to be a text. -/
def section? (l : Line) (key : String) : Option (Option String) :=
  match l.lookup key with
  | none | some .null => some none
  | some (.string s) => some (some s)
  | some _ => none

/-- What stands between the two sections. -/
def rule : String := "\n\n" ++ String.ofList (List.replicate 79 '=') ++ "\n"

/-- The sections below a line. -/
def below (stack exception : Option String) : String :=
  let under : Option String → String
    | some s => "\n" ++ s
    | none => ""
  under stack ++ (if stack.isSome && exception.isSome then rule else "") ++ under exception

/-- The entries that have no place of their own, sorted by their keys. -/
def others (l : Line) : List (String × Json) :=
  (l.filter fun e => !columns.contains e.1 && !sections.contains e.1).mergeSort
    fun x y => x.1 ≤ y.1

/-- What is written for an entry that has no place of its own. A text with blanks, quotes or an
equals sign is quoted. -/
def entry (key : String) (v : Json) : String :=
  let isOdd (c : Char) : Bool := [' ', '\t', '=', '\r', '\n', '"', '\''].contains c
  let text :=
    match v with
    | .string s => if s.toList.any isOdd then v.displayInner else s
    | v => v.displayInner
  key ++ "=" ++ text

/-- What is written at the place of a key: nothing if the line has no such entry. -/
def placed? (l : Line) (key : String) : Option (Option String) :=
  match l.lookup key with
  | none => some none
  | some v => (column? key v).map some

/-- The text of a line. -/
def text? (l : Line) : Option String := do
  let placed ← columns.filterMapM (placed? l)
  let keyed := (others l).map fun (k, v) => entry k v
  let first := (" ".intercalate (placed ++ keyed)).toList
  let stack ← section? l "stack"
  let exception ← section? l "exception"
  return String.ofList (Text.trimEndBy (· = ' ') first) ++ below stack exception

end Console

/-- Write a line. -/
def Layout.write? : Layout → Line → Option Written
  | .json, l => some (.object l)
  | .console, l => (Console.text? l).map .text

/-! ## Output -/

/-- Where records go: what is shown of all loggers that are not quiet, and how it is written. -/
structure Output where
  threshold : Threshold
  layout : Layout
deriving DecidableEq, Repr

/-- The names of a record's own parts. No further entry can have one of them. -/
def reservedKeys : List String := ["name", "msg", "args", "levelname", "levelno", "pathname",
  "filename", "module", "exc_info", "exc_text", "stack_info", "lineno", "funcName", "created",
  "msecs", "relativeCreated", "thread", "threadName", "processName", "process", "message",
  "asctime"]

/-- A further entry has a reserved name. -/
structure ReservedKey where
  key : String
deriving DecidableEq, Repr

/-- What is written for a record. A record whose message or line cannot be made leaves nothing. -/
def Output.emit (o : Output) (context : Context) (call : Call) :
    Except ReservedKey (List Written) :=
  if (thresholdOf o.threshold call.logger).shows call.level then
    match call.extra.find? fun e => reservedKeys.contains e.1 with
    | some e => .error ⟨e.1⟩
    | none =>
      if isPlain call.extra then
        .ok ((messageText? call.message call.arguments).bind fun text =>
          o.layout.write? (line context call text)).toList
      else .ok []
  else .ok []

/-- One step of the handling of requests, as far as records show it. -/
inductive Step where
  | bind (traceId eventName : String)
  | clear
  | say (call : Call)
deriving Repr

/-- The context after a step, and what the step writes. -/
def Output.step (o : Output) (context : Context) :
    Step → Except ReservedKey (Context × List Written)
  | .bind traceId eventName => .ok (context.bind traceId eventName, [])
  | .clear => .ok ({}, [])
  | .say call => (o.emit context call).map fun written => (context, written)

/-- What each step of a sequence writes. -/
def Output.run (o : Output) (context : Context) : List Step →
    Except ReservedKey (List (List Written))
  | [] => .ok []
  | s :: rest => do
    let (context, written) ← o.step context s
    let others ← o.run context rest
    return written :: others

end WebhookRelay.Log
