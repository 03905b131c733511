import WebhookRelay.CommandLine.Help
import WebhookRelay.Log.Threshold

/-!
# Starting the relay

The level on the command line is written into the environment, from which the served application
reads its settings.

- `World`: what the program changes around it.
- `command`: what the program does for a command line.
- `App`: the application that the server builds.
- `Start`: what is started.
- `start`: start the relay from a command line and an environment.
-/

namespace WebhookRelay

open CommandLine

/-- What the program changes around it. -/
structure World where
  environment : Settings.Environment
  /-- What the server has been started with, one time after another. -/
  served : List Launch
deriving DecidableEq, Repr

/-- The variable of the environment that hands the level over. -/
def levelVariable : String := "HOOKRELAY_LOG_LEVEL"

/-- Can a variable of the environment hold this text? -/
def isStorable (text : String) : Bool := !text.toList.contains '\x00'

/-- The world after a launch: the level is handed over, and the server is started. -/
def World.launch (w : World) (launch : Launch) : World where
  environment := Dictionary.put w.environment levelVariable launch.logLevel
  served := w.served ++ [launch]

/-- Why the server is not started. -/
inductive Refusal where
  | exit (e : Exit)
  /-- The help text is asked for, but there is none. -/
  | brokenHelp
  /-- The level has a character that no variable can hold. -/
  | unstorableLevel
deriving DecidableEq, Repr

/-- Carry out a command line. The defaults come from settings that were read when the program
began. -/
def command (defaults : Settings) (arguments : List String) (w : World) :
    World × Except Refusal Launch :=
  match CommandLine.read (.ofSettings defaults) arguments with
  | .error .help => (w, .error (if (help defaults).isSome then .exit .help else .brokenHelp))
  | .error (.problem p) => (w, .error (.exit (.problem p)))
  | .ok launch =>
    if isStorable launch.logLevel then (w.launch launch, .ok launch)
    else (w, .error .unstorableLevel)

/-- The application that the server builds. -/
structure App where
  settings : Settings
  /-- What its loggers show. -/
  threshold : Log.Threshold
deriving DecidableEq, Repr

/-- Why the relay cannot be started. -/
inductive StartError where
  | brokenHelp
  | unstorableLevel
  | settings (e : Settings.LoadError)
  | threshold (m : Log.Threshold.Misnomer)
deriving DecidableEq, Repr

/-- Build the application from the environment. -/
def App.build (env : Settings.Environment) : Except StartError App := do
  let settings ← (Settings.load env []).mapError .settings
  let threshold ← (Log.Threshold.ofName settings.logLevel).mapError .threshold
  return ⟨settings, threshold⟩

/-- What is started. -/
structure Start extends App where
  /-- Where the server listens and what it logs. -/
  launch : Launch
  /-- The environment afterwards. -/
  environment : Settings.Environment
deriving DecidableEq, Repr

/-- How a start ends. -/
inductive StartOutcome where
  | exited (e : Exit)
  | failed (e : StartError)
  | started (s : Start)
deriving DecidableEq, Repr

/-- Start the relay: carry out the command line, and build the application that is served. -/
def start (defaults : Settings) (env : Settings.Environment) (arguments : List String) :
    StartOutcome :=
  let (w, launched) := command defaults arguments ⟨env, []⟩
  match launched with
  | .error (.exit e) => .exited e
  | .error .brokenHelp => .failed .brokenHelp
  | .error .unstorableLevel => .failed .unstorableLevel
  | .ok launch =>
    match App.build w.environment with
    | .error e => .failed e
    | .ok app => .started { app with launch, environment := w.environment }

end WebhookRelay
