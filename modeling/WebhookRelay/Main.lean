import WebhookRelay.CommandLine.Help
import WebhookRelay.Json.Writer
import WebhookRelay.Start

/-!
# The program

Reads the environment and the command line, and prints where the server is to listen and what it
logs, as one line of JSON. All decisions are made by `start`.
-/

namespace WebhookRelay.Program

/-- The variables of the environment that give settings, as far as they are set. -/
def readEnvironment : IO Settings.Environment :=
  Settings.fieldNames.filterMapM fun name => do
    let key := (Settings.variableStart ++ name).toUpper
    return (← IO.getEnv key).map fun value => (key, value)

/-- What is wrong with settings, in one line. -/
def describe : Settings.LoadError → String
  | .unreadable name => "The variable for " ++ name ++ " does not hold JSON"
  | .invalid problems =>
    "; ".intercalate (problems.map fun p => ".".intercalate p.location ++ ": " ++ p.kind.name)

/-- Why the relay cannot be started, in one line. -/
def describeStart : StartError → String
  | .brokenHelp => "The help text has a field that cannot be filled"
  | .unstorableLevel => "The log level has a null character"
  | .settings e => describe e
  | .threshold _ => "The log level is no level"

/-- What is started, as JSON. -/
def summary (s : Start) : Json :=
  .object [("host", .string s.launch.host), ("port", .int s.launch.port),
    ("log_level", .string s.launch.logLevel), ("shown", .string s.threshold.name)]

/-- Give up with a message. -/
def giveUp (message : String) : IO UInt32 := do
  IO.eprintln message
  return 1

/-- Run the program. -/
def run (arguments : List String) : IO UInt32 := do
  let env ← readEnvironment
  match Settings.load env [] with
  | .error e => giveUp (describe e)
  | .ok defaults =>
    match start defaults env arguments with
    | .failed e => giveUp (describeStart e)
    | .exited e =>
      IO.print (e.output defaults)
      IO.eprint e.errors
      return .ofNat e.code
    | .started s =>
      IO.println (summary s).compact
      return 0

end WebhookRelay.Program

/-- The entry point. -/
def main (arguments : List String) : IO UInt32 :=
  WebhookRelay.Program.run arguments
