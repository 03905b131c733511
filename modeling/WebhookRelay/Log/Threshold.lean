import WebhookRelay.Log.Record
import WebhookRelay.Text.UpperCase

/-!
# Which records are shown

- `Log.Threshold`: what a logger shows.
- `Log.Threshold.ofName`: the threshold that a setting names.
- `Log.thresholdOf`: the threshold of a logger. A few loggers that report every request are quiet.
-/

namespace WebhookRelay.Log

/-- What a logger shows: all records, or those of a level and of graver ones. -/
inductive Threshold where
  | everything
  | atLeast (level : Level)
deriving DecidableEq, Repr

namespace Threshold

/-- The name of a threshold. -/
def name : Threshold → String
  | everything => "NOTSET"
  | atLeast level => level.name

/-- Is a record of this level shown? -/
def shows : Threshold → Level → Bool
  | everything, _ => true
  | atLeast least, level => least.severity ≤ level.severity

/-! ## Names -/

/-- The names of thresholds; some thresholds have two. -/
def names : List (String × Threshold) := [("CRITICAL", .atLeast .critical),
  ("FATAL", .atLeast .critical), ("ERROR", .atLeast .error), ("WARNING", .atLeast .warning),
  ("WARN", .atLeast .warning), ("INFO", .atLeast .info), ("DEBUG", .atLeast .debug),
  ("NOTSET", .everything)]

/-- What a name stands for that can be no threshold. -/
inductive Misnomer where
  /-- The layout of a line. -/
  | layout
  /-- The table of the layouts. -/
  | layoutTable
deriving DecidableEq, Repr

/-- The names that stand for something else. -/
def misnomers : List (String × Misnomer) :=
  [("BASIC_FORMAT", .layout), ("_STYLES", .layoutTable)]

/-- The threshold that a name in any letter case stands for. A name that is not known stands for
`INFO`, unless it stands for something else. -/
def ofName (name : String) : Except Misnomer Threshold :=
  let name := Text.upper name
  match misnomers.lookup name with
  | some m => .error m
  | none => .ok ((names.lookup name).getD (.atLeast .info))

end Threshold

/-! ## Loggers -/

/-- The loggers that report every request. -/
def quietLoggers : List String := ["uvicorn.access", "httpx", "httpcore"]

/-- What the quiet loggers show. -/
def quietThreshold : Threshold := .atLeast .warning

/-- Is a logger the given one, or one below it? The parts of a name are separated by points. -/
def isAtOrBelow (logger top : String) : Bool :=
  logger = top || (top.toList ++ ['.']).isPrefixOf logger.toList

/-- The threshold of a logger, where all loggers that are not quiet share one. -/
def thresholdOf (common : Threshold) (logger : String) : Threshold :=
  if quietLoggers.any (isAtOrBelow logger) then quietThreshold else common

end WebhookRelay.Log
