import WebhookRelay.Card
import WebhookRelay.Proofs.Validation.Spelling

/-!
# Cards lose nothing

Every card is read back from what it is written as, whichever optional members it has: absent ones
are left out, and what is left out is read as absent. What is written uses the keys of the members,
but a document may as well use their names; that makes no difference to the card.

- `MessageCard.check_payload`: every card is read back.
- `MessageCard.Respelled`: two documents that differ only in the spelling of members.
- `MessageCard.value?_check`: they are read as the same card, or neither is a card.
- `MessageCard.Keeps`: what is kept of a card in its written form.
-/

namespace WebhookRelay

open Validation

/-! ## Reading back -/

section ReadingBack

variable {α : Type} {check : Json → Checked α} {fields : List (String × Json)} {f : Field}

/-- A member that is given is checked. -/
theorem Validation.required_of_given {v : Json} {a : α} (h : f.given? fields = some v)
    (hv : check v = .valid a) : required fields f check = .valid a := by
  rw [← Checked.value?_eq_some_iff, value?_required, h]
  exact Checked.value?_eq_some_iff.mpr hv

theorem Validation.withDefault_of_given {v : Json} {a : α} (default : α)
    (h : f.given? fields = some v) (hv : check v = .valid a) :
    withDefault fields f default check = .valid a := by
  rw [← Checked.value?_eq_some_iff, value?_withDefault, h]
  exact Checked.value?_eq_some_iff.mpr hv

/-- A member that is left out if it is absent is read as it was. -/
theorem Validation.withDefault_of_map {check : Json → Checked (Option α)} {w : α → Json}
    {a : Option α} (h : f.given? fields = a.map w) (hw : ∀ x, check (w x) = .valid (some x)) :
    withDefault fields f none check = .valid a := by
  rw [← Checked.value?_eq_some_iff, value?_withDefault, h]
  cases a with
  | none => rfl
  | some x => exact Checked.value?_eq_some_iff.mpr (hw x)

/-- A list is read back if its items are. -/
theorem Validation.items_map {payload : α → Json} (h : ∀ a, check (payload a) = .valid a)
    (xs : List α) (i : Nat) : items check i (xs.map payload) = .valid xs := by
  induction xs generalizing i with
  | nil => rfl
  | cons x xs ih =>
    rw [List.map_cons, items, h, ih]
    rfl

theorem Validation.list_map {payload : α → Json} (h : ∀ a, check (payload a) = .valid a)
    (xs : List α) : list check (.array (xs.map payload)) = .valid xs :=
  items_map h xs 0

end ReadingBack

theorem Fact.check_payload (f : Fact) : check f.payload = .valid f := rfl

theorem Target.check_payload (t : Target) : check t.payload = .valid t := rfl

namespace Section

/-- All members of a section. -/
def known : List Field := [titleField, subtitleField, imageField, factsField, markdownField]

/-- The section that the known members make up. -/
def assemble (fields : List (String × Json)) : Checked Section :=
  Section.mk <$> required fields titleField string
    <*> required fields subtitleField string
    <*> withDefault fields imageField none (nullable string)
    <*> withDefault fields factsField none (nullable (list Fact.check))
    <*> withDefault fields markdownField none (nullable boolean)

theorem check_object (fields : List (String × Json)) :
    check (.object fields) = (assemble fields <* noOthers fields known) := rfl

/-- The members that are written for a section. -/
def written (s : Section) : List (String × Json) :=
  [("activityTitle", .string s.activityTitle), ("activitySubtitle", .string s.activitySubtitle)] ++
    (s.activityImage.map fun i => ("activityImage", Json.string i)).toList ++
    (s.facts.map fun fs => ("facts", Json.array (fs.map Fact.payload))).toList ++
    (s.markdown.map fun b => ("markdown", Json.bool b)).toList

/-- A section is read back, whichever of its members are there. -/
theorem check_payload (s : Section) : check s.payload = .valid s := by
  have htitle : required s.written titleField string = .valid s.activityTitle :=
    required_of_given rfl rfl
  have hsubtitle : required s.written subtitleField string = .valid s.activitySubtitle :=
    required_of_given rfl rfl
  -- Where an optional member stands, if it does, depends on which of the others are there.
  have himage : withDefault s.written imageField none (nullable string) =
      .valid s.activityImage := by
    refine withDefault_of_map (w := .string) ?_ fun _ => rfl
    obtain ⟨_, _, image, facts, markdown⟩ := s
    cases image <;> cases facts <;> cases markdown <;> rfl
  have hfacts : withDefault s.written factsField none (nullable (list Fact.check)) =
      .valid s.facts := by
    refine withDefault_of_map (w := fun fs => .array (fs.map Fact.payload)) ?_ fun fs => ?_
    · obtain ⟨_, _, image, facts, markdown⟩ := s
      cases image <;> cases facts <;> cases markdown <;> rfl
    · show some <$> list Fact.check _ = _
      rw [list_map Fact.check_payload]
      rfl
  have hmarkdown : withDefault s.written markdownField none (nullable boolean) =
      .valid s.markdown := by
    refine withDefault_of_map (w := .bool) ?_ fun _ => rfl
    obtain ⟨_, _, image, facts, markdown⟩ := s
    cases image <;> cases facts <;> cases markdown <;> rfl
  have hothers : noOthers s.written known = .valid () := by
    obtain ⟨_, _, image, facts, markdown⟩ := s
    cases image <;> cases facts <;> cases markdown <;> rfl
  show check (.object s.written) = _
  rw [check_object, assemble, htitle, hsubtitle, himage, hfacts, hmarkdown, hothers]
  rfl

end Section

namespace PotentialAction

/-- All members of an action. -/
def known : List Field := [typeField, .plain "name", .plain "targets"]

/-- The action that the known members make up. -/
def assemble (fields : List (String × Json)) : Checked PotentialAction :=
  PotentialAction.mk <$> withDefault fields typeField defaultType string
    <*> required fields (.plain "name") string
    <*> required fields (.plain "targets") (list Target.check)

theorem check_object (fields : List (String × Json)) :
    check (.object fields) = (assemble fields <* noOthers fields known) := rfl

/-- The members that are written for an action. -/
def written (a : PotentialAction) : List (String × Json) :=
  [("@type", .string a.type), ("name", .string a.name),
    ("targets", .array (a.targets.map Target.payload))]

/-- An action is read back, however many targets it has. -/
theorem check_payload (a : PotentialAction) : check a.payload = .valid a := by
  have htype : withDefault a.written typeField defaultType string = .valid a.type :=
    withDefault_of_given _ rfl rfl
  have hname : required a.written (.plain "name") string = .valid a.name :=
    required_of_given rfl rfl
  have htargets : required a.written (.plain "targets") (list Target.check) = .valid a.targets :=
    required_of_given rfl (list_map Target.check_payload a.targets)
  have hothers : noOthers a.written known = .valid () := rfl
  show check (.object a.written) = _
  rw [check_object, assemble, htype, hname, htargets, hothers]
  rfl

end PotentialAction

namespace MessageCard

/-- The sections. -/
def sectionsField : Field := .plain "sections"

/-- All members of a card. -/
def known : List Field :=
  [typeField, contextField, colorField, .plain "summary", sectionsField, actionField]

/-- The card that the known members make up. -/
def assemble (fields : List (String × Json)) : Checked MessageCard :=
  MessageCard.mk <$> withDefault fields typeField defaultType string
    <*> withDefault fields contextField defaultContext string
    <*> required fields colorField string
    <*> required fields (.plain "summary") string
    <*> required fields sectionsField (list Section.check)
    <*> required fields actionField (list PotentialAction.check)

theorem check_object (fields : List (String × Json)) :
    check (.object fields) = (assemble fields <* noOthers fields known) := rfl

/-- The members that are written for a card. -/
def written (c : MessageCard) : List (String × Json) :=
  [("@type", .string c.type), ("@context", .string c.context),
    ("themeColor", .string c.themeColor), ("summary", .string c.summary),
    ("sections", .array (c.sections.map Section.payload)),
    ("potentialAction", .array (c.potentialAction.map PotentialAction.payload))]

/-- A card is read back, however many sections and actions it has. -/
theorem check_payload (c : MessageCard) : check c.payload = .valid c := by
  have htype : withDefault c.written typeField defaultType string = .valid c.type :=
    withDefault_of_given _ rfl rfl
  have hcontext : withDefault c.written contextField defaultContext string = .valid c.context :=
    withDefault_of_given _ rfl rfl
  have hcolor : required c.written colorField string = .valid c.themeColor :=
    required_of_given rfl rfl
  have hsummary : required c.written (.plain "summary") string = .valid c.summary :=
    required_of_given rfl rfl
  have hsections : required c.written sectionsField (list Section.check) = .valid c.sections :=
    required_of_given rfl (list_map Section.check_payload c.sections)
  have hactions : required c.written actionField (list PotentialAction.check) =
      .valid c.potentialAction :=
    required_of_given rfl (list_map PotentialAction.check_payload c.potentialAction)
  have hothers : noOthers c.written known = .valid () := rfl
  show check (.object c.written) = _
  rw [check_object, assemble, htype, hcontext, hcolor, hsummary, hsections, hactions, hothers]
  rfl

end MessageCard

/-! ## Other spellings -/

/-- Two documents for a section that differ only in the spelling of its members. -/
def Section.Respelled : Json → Json → Prop :=
  SameObject known fun _ => Eq

/-- Two documents for an action that differ only in the spelling of its members. -/
def PotentialAction.Respelled : Json → Json → Prop :=
  SameObject known fun _ => Eq

/-- The values of the members of two cards: sections and actions may be spelled differently in their
turn, all other values are the same. -/
def MessageCard.SameValue (f : Field) : Json → Json → Prop :=
  if f = sectionsField then SameItems Section.Respelled
  else if f = actionField then SameItems PotentialAction.Respelled
  else Eq

/-- Two documents for a card that differ only in the spelling of members, at any level. -/
def MessageCard.Respelled : Json → Json → Prop :=
  SameObject known SameValue

theorem Section.value?_check (d d' : Json) (h : Respelled d d') :
    (check d).value? = (check d').value? := by
  cases h with
  | same => rfl
  | respelled h =>
    rw [check_object, check_object]
    refine value?_object (by decide) h fun hgiven => ?_
    have htext := value?_eq_of_eq string
    have htitle := value?_required_eq htext (hgiven titleField (by decide))
    have hsubtitle := value?_required_eq htext (hgiven subtitleField (by decide))
    have himage :=
      value?_withDefault_eq none (value?_eq_of_eq (nullable string)) (hgiven imageField (by decide))
    have hfacts := value?_withDefault_eq none (value?_eq_of_eq (nullable (list Fact.check)))
      (hgiven factsField (by decide))
    have hmarkdown := value?_withDefault_eq none (value?_eq_of_eq (nullable boolean))
      (hgiven markdownField (by decide))
    simp only [assemble, Checked.value?_seq, Checked.value?_map, htitle, hsubtitle, himage, hfacts,
      hmarkdown]

theorem PotentialAction.value?_check (d d' : Json) (h : Respelled d d') :
    (check d).value? = (check d').value? := by
  cases h with
  | same => rfl
  | respelled h =>
    rw [check_object, check_object]
    refine value?_object (by decide) h fun hgiven => ?_
    have htext := value?_eq_of_eq string
    have htype := value?_withDefault_eq defaultType htext (hgiven typeField (by decide))
    have hname := value?_required_eq htext (hgiven (.plain "name") (by decide))
    have htargets := value?_required_eq (value?_eq_of_eq (list Target.check))
      (hgiven (.plain "targets") (by decide))
    simp only [assemble, Checked.value?_seq, Checked.value?_map, htype, hname, htargets]

namespace MessageCard

/-- Documents that differ only in the spelling of members are read as the same card, or neither is a
card. -/
theorem value?_check (d d' : Json) (h : Respelled d d') : (check d).value? = (check d').value? := by
  cases h with
  | same => rfl
  | respelled h =>
    rw [check_object, check_object]
    refine value?_object (by decide) h fun hgiven => ?_
    have htext := value?_eq_of_eq string
    have htype := value?_withDefault_eq defaultType htext (hgiven typeField (by decide))
    have hcontext := value?_withDefault_eq defaultContext htext (hgiven contextField (by decide))
    have hcolor := value?_required_eq htext (hgiven colorField (by decide))
    have hsummary := value?_required_eq htext (hgiven (.plain "summary") (by decide))
    -- The items of these two lists may be spelled differently in their turn.
    have hsections := value?_required_eq (S := SameItems Section.Respelled)
      (fun _ _ => value?_list_eq Section.value?_check) (hgiven sectionsField (by decide))
    have hactions := value?_required_eq (S := SameItems PotentialAction.Respelled)
      (fun _ _ => value?_list_eq PotentialAction.value?_check) (hgiven actionField (by decide))
    simp only [assemble, Checked.value?_seq, Checked.value?_map, htype, hcontext, hcolor, hsummary,
      hsections, hactions]

/-- What the written form of a card keeps. -/
structure Keeps (c : MessageCard) : Prop where
  /-- The card is read back. -/
  readBack : check c.payload = .valid c
  /-- No other card is written like it. -/
  tellsApart : ∀ c' : MessageCard, c'.payload = c.payload → c' = c
  /-- What is read from its written form is written alike again. -/
  settled : ∀ c', check c.payload = .valid c' → c'.payload = c.payload
  /-- Whether a document is read as the card does not depend on the spelling of its members. -/
  spelling : ∀ d d', Respelled d d' → (check d = .valid c ↔ check d' = .valid c)

/-- **Cards lose nothing**: every card is read back from its written form. -/
theorem payload_keeps (c : MessageCard) : Keeps c where
  readBack := c.check_payload
  tellsApart c' h := by
    have hread := c'.check_payload
    rw [h, c.check_payload] at hread
    exact (Checked.valid.inj hread).symm
  settled c' h := by
    rw [c.check_payload] at h
    rw [Checked.valid.inj h]
  spelling d d' h := by
    rw [← Checked.value?_eq_some_iff, ← Checked.value?_eq_some_iff, value?_check d d' h]

/-- A card given by names, with a truth value as a word: the written form has the keys. -/
example :
    (check (.object [("summary", .string "s"), ("theme_color", .string "c"),
      ("potential_action", .array []),
      ("sections", .array [.object [("activity_title", .string "t"), ("facts", .array []),
        ("activitySubtitle", .string ""), ("markdown", .string "No")]])])).value?.map payload =
    some (.object [("@type", .string "MessageCard"),
      ("@context", .string "https://schema.org/extensions"), ("themeColor", .string "c"),
      ("summary", .string "s"),
      ("sections", .array [.object [("activityTitle", .string "t"),
        ("activitySubtitle", .string ""), ("facts", .array []), ("markdown", .bool false)]]),
      ("potentialAction", .array [])]) := by rfl

end MessageCard

end WebhookRelay
