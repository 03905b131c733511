import WebhookRelay.Filter
import WebhookRelay.Json.Reader
import WebhookRelay.Text.LowerCase
import WebhookRelay.Validation

/-!
# Settings

Settings come from the environment and from arguments. Arguments win, except that dictionaries from
both are merged.

- `Settings`: the settings with their defaults.
- `Settings.load`: read and check them.
- `Settings.matchConfig`: the filtering rules among them.
-/

namespace WebhookRelay

open Validation

/-- The settings of the relay. -/
structure Settings where
  /-- The secret shared with the sender of deliveries. -/
  secretToken : String := ""
  /-- Where deliveries are relayed to. -/
  targetUrl : String := "http://localhost:9000/webhook"
  relayTimeoutSeconds : Binary64 := .ofRatio false 10 1
  /-- What is done with an event that has no predicate. -/
  unmatchedEventAction : Action := .drop
  eventFilters : Dictionary Event EventFilter := []
  /-- Is a card relayed, and not the body as it came? -/
  adaptToMsTeamsWebhook : Bool := true
  msTeamsSummaryTemplate : String := "|$.repository.full_name| event"
  msTeamsTitleTemplate : String := "|$.repository.full_name|"
  msTeamsSubtitleTemplate : String := "|$.sender.login|"
  msTeamsActionName : String := "Open in GitHub"
  msTeamsActionTemplateUrl : String := "|$.repository.html_url|"
  msTeamsThemeColor : String := "0076D7"
  /-- The headers of a delivery that are sent on. -/
  forwardedHeaders : List String := ["user-agent", "x-github-event", "x-github-delivery",
    "x-github-hook-id", "x-github-hook-installation-target-id",
    "x-github-hook-installation-target-type"]
  host : String := "0.0.0.0"
  port : Int := 8080
  logLevel : String := "info"
  jsonLogs : Bool := true
deriving DecidableEq, Repr

/-- Read the filter of one event. -/
def EventFilter.check : Json → Checked EventFilter :=
  object fun fields =>
    let predicate := Field.plain "predicate"
    let action := Field.plain "action"
    EventFilter.mk <$> withDefault fields predicate none (nullable string)
      <*> withDefault fields action none (nullable (name Action.ofName?))
      <* noOthers fields [predicate, action]

/-- Read filters by event. -/
def EventFilter.checkAll : Json → Checked (Dictionary Event EventFilter) :=
  dictionary (name Event.ofName?) EventFilter.check

/-- Read filtering rules. Members that are not known are ignored. -/
def MatchConfig.check : Json → Checked MatchConfig :=
  object fun fields =>
    MatchConfig.mk <$> withDefault fields (.plain "filters") [] EventFilter.checkAll
      <*> withDefault fields (.plain "unmatched_default") .drop (name Action.ofName?)

namespace Settings

/-- The filtering rules. -/
def matchConfig (s : Settings) : MatchConfig :=
  ⟨s.eventFilters, s.unmatchedEventAction⟩

/-- The names of all settings. -/
def fieldNames : List String := ["secret_token", "target_url", "relay_timeout_seconds",
  "unmatched_event_action", "event_filters", "adapt_to_ms_teams_webhook",
  "ms_teams_summary_template", "ms_teams_title_template", "ms_teams_subtitle_template",
  "ms_teams_action_name", "ms_teams_action_template_url", "ms_teams_theme_color",
  "forwarded_headers", "host", "port", "log_level", "json_logs"]

/-- Check the settings that are given; the others have their defaults. -/
def check (fields : List (String × Json)) : Checked Settings :=
  let d : Settings := {}
  let get {α : Type} (name : String) (default : α) (check : Json → Checked α) : Checked α :=
    withDefault fields (.plain name) default check
  Settings.mk <$> get "secret_token" d.secretToken string
    <*> get "target_url" d.targetUrl string
    <*> get "relay_timeout_seconds" d.relayTimeoutSeconds number
    <*> get "unmatched_event_action" d.unmatchedEventAction (name Action.ofName?)
    <*> get "event_filters" d.eventFilters EventFilter.checkAll
    <*> get "adapt_to_ms_teams_webhook" d.adaptToMsTeamsWebhook boolean
    <*> get "ms_teams_summary_template" d.msTeamsSummaryTemplate string
    <*> get "ms_teams_title_template" d.msTeamsTitleTemplate string
    <*> get "ms_teams_subtitle_template" d.msTeamsSubtitleTemplate string
    <*> get "ms_teams_action_name" d.msTeamsActionName string
    <*> get "ms_teams_action_template_url" d.msTeamsActionTemplateUrl string
    <*> get "ms_teams_theme_color" d.msTeamsThemeColor string
    <*> get "forwarded_headers" d.forwardedHeaders (list string)
    <*> get "host" d.host string
    <*> get "port" d.port integer
    <*> get "log_level" d.logLevel string
    <*> get "json_logs" d.jsonLogs boolean
    <* noOthers fields (fieldNames.map Field.plain)

/-! ## The environment -/

/-- The variables of the environment. -/
abbrev Environment := List (String × String)

/-- What the names of the variables begin with, in any letter case. -/
def variableStart : String := "hookrelay_"

/-- The value of the variable for a setting. Of names that differ in letter case the last one
counts. -/
def valueOf? (env : Environment) (name : String) : Option String :=
  (env.reverse.find? fun (k, _) => Text.lower k == variableStart ++ name).map Prod.snd

/-- The settings that are given in the environment as JSON. -/
def structuredNames : List String := ["event_filters", "forwarded_headers"]

/-- Why settings cannot be loaded. -/
inductive LoadError where
  /-- A variable does not hold JSON. -/
  | unreadable (name : String)
  | invalid (problems : List Problem)
deriving DecidableEq, Repr

/-- The setting that a variable gives, if it gives one. -/
def readVariable (env : Environment) (name : String) :
    Except LoadError (Option (String × Json)) :=
  match valueOf? env name with
  | none => .ok none
  | some text =>
    if structuredNames.contains name then
      match Json.read text with
      | .error _ => .error (.unreadable name)
      | .ok .null => .ok none
      | .ok v => .ok (some (name, v))
    else .ok (some (name, .string text))

/-- The settings that the environment gives. -/
def readEnvironment (env : Environment) : Except LoadError (List (String × Json)) :=
  (fieldNames.mapM (readVariable env)).map (·.filterMap id)

mutual

/-- A value that replaces another; two objects are merged. -/
def mergeValue (old : Option Json) : Json → Json
  | .object new =>
    match old with
    | some (.object fields) => .object (merge fields new)
    | _ => .object new
  | v => v

/-- Write entries onto a dictionary, merging objects. -/
def merge (fields : Dictionary String Json) : List (String × Json) → Dictionary String Json
  | [] => fields
  | (k, v) :: rest => merge (fields.put k (mergeValue (fields.lookup k) v)) rest

end

/-- The settings that the environment and the arguments give together. -/
def load (env : Environment) (arguments : List (String × Json)) : Except LoadError Settings := do
  let fromEnvironment ← readEnvironment env
  match check (merge fromEnvironment arguments) with
  | .valid s => return s
  | .invalid ps => throw (.invalid ps)

end Settings

end WebhookRelay
