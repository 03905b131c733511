import WebhookRelay.Dictionary
import WebhookRelay.Query

/-!
# Templates

A template is a text with placeholders, each a query between two bars. Within a line the bars pair
up from the left; a bar that is left over stands for itself.

- `Template.Span`: a piece of a template.
- `Template.scan`: the pieces of a template.
- `Template.substitution`: what a placeholder is replaced with.
- `Template.render`: the text of a template for a document.
- `Template.fault_of_render`: a fault in a template names it.
-/

namespace WebhookRelay.Template

/-! ## Spans -/

/-- A piece of a template. -/
inductive Span where
  | literal (text : String)
  | placeholder (expression : String)
deriving DecidableEq, Repr

namespace Span

/-- The piece as it stands in the template. -/
def text : Span → String
  | .literal s => s
  | .placeholder expression => "|" ++ expression ++ "|"

/-- The query of a placeholder. -/
def expression? : Span → Option String
  | .literal _ => none
  | .placeholder expression => some expression

end Span

/-- The expression up to the next bar, if there is one on the same line. -/
def expression? : List Char → Option (List Char)
  | [] => none
  | c :: rest =>
    if c = '|' then some []
    else if c = '\n' then none
    else (expression? rest).map (c :: ·)

/-- A literal of the given characters, latest first, unless there are none. -/
def literal (reversed : List Char) : List Span :=
  if reversed.isEmpty then [] else [.literal (String.ofList reversed.reverse)]

/-- The pieces of a text after the first `skip` characters, which belong to the piece before. The
literal that goes on there has some characters already, latest first. -/
def scanFrom : (skip : Nat) → (reversed : List Char) → List Char → List Span
  | _, reversed, [] => literal reversed
  | skip + 1, reversed, _ :: rest => scanFrom skip reversed rest
  | 0, reversed, c :: rest =>
    if c = '|' then
      match expression? rest with
      | some e =>
        literal reversed ++ .placeholder (String.ofList e) :: scanFrom (e.length + 1) [] rest
      | none => scanFrom 0 (c :: reversed) rest
    else scanFrom 0 (c :: reversed) rest

/-- The pieces of a template. -/
def scan (template : String) : List Span :=
  scanFrom 0 [] template.toList

/-! ## Rendering -/

/-- What stands between several selected values. -/
def separator : String := ", "

/-- The text of all values that a query has selected, unless an integer in one of them has too many
digits to be written. -/
def join (values : List Json) : Except Failure String :=
  if values.any Json.hasOverlong then .error (.crash .overlongInteger)
  else .ok (separator.intercalate (values.map Query.toText))

/-- What a placeholder is replaced with: all values that its query selects. A blank one is replaced
with nothing. -/
def substitution (expression : String) (document : Json) : Logged Failure String :=
  if Text.isAllBlank expression then return ""
  else do
    let values ← Query.findValues expression document
    .of (join values)

/-- The failure of a template in which a placeholder fails. -/
def failureIn (template : String) : Failure → Failure
  | .fault (.config f) => .config (.template template f)
  | f => f

/-- The texts of the placeholders that have been evaluated, by the placeholders as they stand in the
template. -/
abbrev Evaluated := Dictionary String String

/-- The text of one piece. A placeholder that has been evaluated before is not evaluated again. -/
def renderSpan (template : String) (document : Json) (done : Evaluated) :
    Span → Logged Failure (String × Evaluated)
  | .literal s => return (s, done)
  | .placeholder e =>
    let key := (Span.placeholder e).text
    match done.lookup key with
    | some s => return (s, done)
    | none => do
      let s ← (substitution e document).mapError (failureIn template)
      return (s, done.put key s)

/-- The text of the remaining pieces. -/
def renderSpans (template : String) (document : Json) : Evaluated → List Span →
    Logged Failure String
  | _, [] => return ""
  | done, span :: rest => do
    let (first, done) ← renderSpan template document done span
    let others ← renderSpans template document done rest
    return first ++ others

/-- The text of a template for a document. -/
def render (template : String) (document : Json) : Logged Failure String :=
  renderSpans template document [] (scan template)

/-! ## Faults -/

section Faults

variable {template : String} {document : Json} {f : Fault}

/-- A placeholder has no faults but the operator's. -/
theorem fault_of_substitution {expression : String}
    (h : (substitution expression document).result = .error (.fault f)) :
    ∃ cause, f = .config cause := by
  unfold substitution at h
  split at h
  · cases h
  · obtain hvalues | ⟨values, _, h⟩ := Logged.result_bind_eq_error_iff.mp h
    · exact Query.fault_of_findValues hvalues
    · -- Values that cannot be written are no fault.
      rw [Logged.result_of, join] at h
      split at h <;> cases h

/-- A fault of a placeholder in a template names the template. -/
theorem fault_of_failureIn {failure : Failure} (h : failureIn template failure = .fault f)
    (hcause : ∀ g, failure = .fault g → ∃ cause, g = .config cause) :
    ∃ cause, f = .config (.template template cause) := by
  cases failure with
  | crash c => cases h
  | fault g =>
    obtain ⟨cause, rfl⟩ := hcause g rfl
    cases h
    exact ⟨cause, rfl⟩

/-- A fault in a piece of a template names the template. -/
theorem fault_of_renderSpan {done : Evaluated} {span : Span}
    (h : (renderSpan template document done span).result = .error (.fault f)) :
    ∃ cause, f = .config (.template template cause) := by
  cases span with
  | literal s => cases h
  | placeholder e =>
    unfold renderSpan at h
    dsimp only at h
    split at h
    · cases h
    · obtain h | ⟨_, _, h⟩ := Logged.result_bind_eq_error_iff.mp h
      · rw [Logged.result_mapError] at h
        cases hsubstitution : (substitution e document).result with
        | ok s =>
          rw [hsubstitution] at h
          cases h
        | error failure =>
          rw [hsubstitution] at h
          refine fault_of_failureIn (Except.error.inj h) fun g hg => ?_
          exact fault_of_substitution (hg ▸ hsubstitution)
      · cases h

/-- A fault in the pieces of a template names the template. -/
theorem fault_of_renderSpans {done : Evaluated} {spans : List Span}
    (h : (renderSpans template document done spans).result = .error (.fault f)) :
    ∃ cause, f = .config (.template template cause) := by
  induction spans generalizing done with
  | nil => cases h
  | cons span rest ih =>
    obtain hspan | ⟨⟨first, done⟩, _, h⟩ := Logged.result_bind_eq_error_iff.mp h
    · exact fault_of_renderSpan hspan
    · obtain hrest | ⟨_, _, h⟩ := Logged.result_bind_eq_error_iff.mp h
      · exact ih hrest
      · cases h

/-- A fault in a template names the template. -/
theorem fault_of_render (h : (render template document).result = .error (.fault f)) :
    ∃ cause, f = .config (.template template cause) :=
  fault_of_renderSpans h

end Faults

end WebhookRelay.Template
