import WebhookRelay.CommandLine
import WebhookRelay.Log.Message
import WebhookRelay.Text.Split

/-!
# What the command line prints

The help text explains every flag and tells its default. A percent sign in an explanation starts a
field, also where it comes from a default; if that field cannot be filled there is no help text.

- `CommandLine.Flag.explanation`, `CommandLine.Flag.parameters`: the explanation of a flag, and what
  its fields can be filled with.
- `CommandLine.help`: the help text.
- `CommandLine.Exit.output`, `CommandLine.Exit.errors`, `CommandLine.Exit.code`: what is printed,
  and the code, when nothing is launched.
-/

namespace WebhookRelay.CommandLine

/-- The name of the program. -/
def programName : String := "hookrelay-server"

/-- How the program is used. -/
def usage : String :=
  "usage: " ++ programName ++ " [-h] [--host HOST] [--port PORT]\n" ++
    "                        [--log-level LOG_LEVEL]\n"

/-- What the program is for. -/
def purpose : String :=
  "Webhook relay: verifies, filters and forwards GitHub deliveries to MS Teams"

/-! ## The help text -/

/-- Put words into lines no longer than a width, as many into each line as fit. `current` is the
line that is being filled. -/
def fillLines (width : Nat) (current : String) : List String → List String
  | [] => [current]
  | word :: rest =>
    let longer := current ++ " " ++ word
    if longer.length ≤ width then fillLines width longer rest
    else current :: fillLines width word rest

/-- The lines of a text. -/
def wrap (width : Nat) (text : String) : List String :=
  match (Text.split " " none text).filter (!·.isEmpty) with
  | [] => []
  | word :: rest => fillLines width word rest

/-- The column where explanations begin. -/
def explanationColumn : Nat := 24

/-- The width of explanations. -/
def explanationWidth : Nat := 54

/-- The given number of spaces. -/
def spaces (n : Nat) : String := String.ofList (List.replicate n ' ')

/-- The help on one flag: its explanation stands beside it if there is room, and below it
otherwise. -/
def helpRow (invocation explanation : String) : String :=
  let start := "  " ++ invocation
  let lines := (wrap explanationWidth explanation).map (· ++ "\n")
  let indent := spaces explanationColumn
  if start.length + 2 ≤ explanationColumn then
    start ++ spaces (explanationColumn - start.length) ++ indent.intercalate lines
  else start ++ "\n" ++ indent ++ indent.intercalate lines

namespace Flag

/-- All flags, in the order in which they are explained. -/
def all : List Flag := [.help, .host, .port, .logLevel]

/-- How a flag is given. -/
def invocation : Flag → String
  | help => "-h, --help"
  | host => "--host HOST"
  | port => "--port PORT"
  | logLevel => "--log-level LOG_LEVEL"

/-- What a flag is for. It tells the default, which comes from the settings. -/
def explanation (s : Settings) : Flag → String
  | help => "show this help message and exit"
  | host => "Bind host (default: " ++ s.host ++ ")"
  | port => "Bind port (default: " ++ String.ofList (Text.showInteger s.port) ++ ")"
  | logLevel => "Logging level for the relay and uvicorn (default: " ++ s.logLevel ++ ")"

/-- The name under which the value of a flag is kept. -/
def destination : Flag → String
  | help => "help"
  | host => "host"
  | port => "port"
  | logLevel => "log_level"

/-- The value of a flag that is not given. -/
def default? (s : Settings) : Flag → Option Json
  | help => none
  | host => some (.string s.host)
  | port => some (.int s.port)
  | logLevel => some (.string s.logLevel)

/-- What the fields in the explanation of a flag can be filled with, by name. The group that a flag
belongs to has no text of its own, so its title stands for it. -/
def parameters (s : Settings) (flag : Flag) : List (String × Json) :=
  [("option_strings", .array ((spellings.filter (·.2 == flag)).map fun s => .string s.1)),
    ("dest", .string flag.destination),
    ("nargs", if flag = help then .int 0 else .null),
    ("const", .null)] ++
    (flag.default? s).toList.map (fun v => ("default", v)) ++
    [("type", if flag = port then .string "int" else .null),
      ("choices", .null),
      ("required", .bool false),
      ("help", .string (flag.explanation s)),
      ("metavar", .null),
      ("container", .string "options"),
      ("prog", .string programName)]

/-- The help on a flag, if the fields in its explanation can be filled. -/
def row? (s : Settings) (flag : Flag) : Option String :=
  (Log.messageText? (flag.explanation s) [.object (flag.parameters s)]).map
    (helpRow flag.invocation)

end Flag

/-- The help text, if there is help on every flag. -/
def help (s : Settings) : Option String :=
  (Flag.all.mapM (Flag.row? s)).map fun rows =>
    usage ++ "\n" ++ purpose ++ "\n\noptions:\n" ++ String.join rows

/-! ## Exits -/

namespace Exit

/-- The code that the program ends with. -/
def code : Exit → Nat
  | help => 0
  | problem _ => 2

/-- What the program prints. -/
def output (s : Settings) : Exit → String
  | help => (CommandLine.help s).getD ""
  | problem _ => ""

/-- What the program prints about errors. -/
def errors : Exit → String
  | help => ""
  | problem p => usage ++ programName ++ ": error: " ++ p.message ++ "\n"

end Exit

end WebhookRelay.CommandLine
