import WebhookRelay.Validation

/-!
# Message cards

The card that the target shows for a delivery: some sections with facts, and actions with targets.

- `MessageCard` and its parts.
- `MessageCard.check`: read a card; members may have their written key or their name.
- `MessageCard.payload`: write a card. Absent optional members are left out.
- `MessageCard.build`: the card of one section and one action.
-/

namespace WebhookRelay

open Validation

/-! ## Parts -/

/-- A fact of a section. -/
structure Fact where
  name : String
  value : String
deriving DecidableEq, Repr

namespace Fact

/-- Read a fact. -/
def check : Json → Checked Fact :=
  object fun fields =>
    let name := Field.plain "name"
    let value := Field.plain "value"
    Fact.mk <$> required fields name string <*> required fields value string
      <* noOthers fields [name, value]

/-- Write a fact. -/
def payload (f : Fact) : Json := .object [("name", .string f.name), ("value", .string f.value)]

end Fact

/-- A section of a card. -/
structure Section where
  activityTitle : String
  activitySubtitle : String
  activityImage : Option String
  facts : Option (List Fact)
  markdown : Option Bool
deriving DecidableEq, Repr

namespace Section

/-- The title. -/
def titleField : Field := ⟨"activityTitle", "activity_title"⟩

/-- The subtitle. -/
def subtitleField : Field := ⟨"activitySubtitle", "activity_subtitle"⟩

/-- The image. -/
def imageField : Field := ⟨"activityImage", "activity_image"⟩

/-- The facts. -/
def factsField : Field := .plain "facts"

/-- The mark for formatted text. -/
def markdownField : Field := .plain "markdown"

/-- Read a section. -/
def check : Json → Checked Section :=
  object fun fields =>
    Section.mk <$> required fields titleField string
      <*> required fields subtitleField string
      <*> withDefault fields imageField none (nullable string)
      <*> withDefault fields factsField none (nullable (list Fact.check))
      <*> withDefault fields markdownField none (nullable boolean)
      <* noOthers fields [titleField, subtitleField, imageField, factsField, markdownField]

/-- Write a section. -/
def payload (s : Section) : Json :=
  .object <|
    [("activityTitle", .string s.activityTitle),
      ("activitySubtitle", .string s.activitySubtitle)] ++
    (s.activityImage.map fun i => ("activityImage", Json.string i)).toList ++
    (s.facts.map fun fs => ("facts", Json.array (fs.map Fact.payload))).toList ++
    (s.markdown.map fun b => ("markdown", Json.bool b)).toList

end Section

/-- A place that an action leads to. -/
structure Target where
  os : String
  uri : String
deriving DecidableEq, Repr

namespace Target

/-- Read a target. -/
def check : Json → Checked Target :=
  object fun fields =>
    let os := Field.plain "os"
    let uri := Field.plain "uri"
    Target.mk <$> withDefault fields os "default" string <*> required fields uri string
      <* noOthers fields [os, uri]

/-- Write a target. -/
def payload (t : Target) : Json := .object [("os", .string t.os), ("uri", .string t.uri)]

end Target

/-- What the reader of a card can do. -/
structure PotentialAction where
  type : String
  name : String
  targets : List Target
deriving DecidableEq, Repr

namespace PotentialAction

/-- The type of action that a card has if it names none. -/
def defaultType : String := "OpenUri"

/-- The type. -/
def typeField : Field := ⟨"@type", "type"⟩

/-- Read an action. -/
def check : Json → Checked PotentialAction :=
  object fun fields =>
    let name := Field.plain "name"
    let targets := Field.plain "targets"
    PotentialAction.mk <$> withDefault fields typeField defaultType string
      <*> required fields name string
      <*> required fields targets (list Target.check)
      <* noOthers fields [typeField, name, targets]

/-- Write an action. -/
def payload (a : PotentialAction) : Json :=
  .object [("@type", .string a.type), ("name", .string a.name),
    ("targets", .array (a.targets.map Target.payload))]

end PotentialAction

/-! ## Cards -/

/-- A card. -/
structure MessageCard where
  type : String
  context : String
  themeColor : String
  summary : String
  sections : List Section
  potentialAction : List PotentialAction
deriving DecidableEq, Repr

namespace MessageCard

/-- The type of every card that names none. -/
def defaultType : String := "MessageCard"

/-- The context of every card that names none. -/
def defaultContext : String := "https://schema.org/extensions"

/-- The type. -/
def typeField : Field := ⟨"@type", "type"⟩

/-- The context. -/
def contextField : Field := ⟨"@context", "context"⟩

/-- The color. -/
def colorField : Field := ⟨"themeColor", "theme_color"⟩

/-- The actions. -/
def actionField : Field := ⟨"potentialAction", "potential_action"⟩

/-- Read a card. -/
def check : Json → Checked MessageCard :=
  object fun fields =>
    let summary := Field.plain "summary"
    let sections := Field.plain "sections"
    MessageCard.mk <$> withDefault fields typeField defaultType string
      <*> withDefault fields contextField defaultContext string
      <*> required fields colorField string
      <*> required fields summary string
      <*> required fields sections (list Section.check)
      <*> required fields actionField (list PotentialAction.check)
      <* noOthers fields [typeField, contextField, colorField, summary, sections, actionField]

/-- Write a card. -/
def payload (c : MessageCard) : Json :=
  .object [("@type", .string c.type), ("@context", .string c.context),
    ("themeColor", .string c.themeColor), ("summary", .string c.summary),
    ("sections", .array (c.sections.map Section.payload)),
    ("potentialAction", .array (c.potentialAction.map PotentialAction.payload))]

/-- The texts of a card with one section and one action. -/
structure Parts (α : Type) where
  summary : α
  title : α
  subtitle : α
  actionUri : α
  actionName : α
  themeColor : α
deriving DecidableEq, Repr

/-- The card of one section and one action. The texts are used as they are. -/
def build (p : Parts String) : MessageCard where
  type := defaultType
  context := defaultContext
  themeColor := p.themeColor
  summary := p.summary
  sections := [⟨p.title, p.subtitle, none, none, none⟩]
  potentialAction := [⟨PotentialAction.defaultType, p.actionName, [⟨"default", p.actionUri⟩]⟩]

/-- Check the parts of a card one after another: the section, the target, the action, the card. The
first of them that has problems is reported, by the names of its members. -/
def checkParts (p : Parts Json) : Except (List Problem) (Parts String) := do
  let (title, subtitle) ← Checked.toExcept <| Prod.mk
    <$> (string p.title).within "activity_title"
    <*> (string p.subtitle).within "activity_subtitle"
  let actionUri ← ((string p.actionUri).within "uri").toExcept
  let actionName ← ((string p.actionName).within "name").toExcept
  let (themeColor, summary) ← Checked.toExcept <| Prod.mk
    <$> (string p.themeColor).within "theme_color"
    <*> (string p.summary).within "summary"
  return ⟨summary, title, subtitle, actionUri, actionName, themeColor⟩

end MessageCard

end WebhookRelay
