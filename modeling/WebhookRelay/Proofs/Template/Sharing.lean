import Mathlib.Data.List.Forall2
import WebhookRelay.Template

/-!
# Shared evaluations

A placeholder that comes again in a template is not evaluated again, and nobody can tell: the text,
the failure and the records are those of evaluating every placeholder afresh.

- `renderAfresh`: the text of pieces, each of which is evaluated by itself.
- `Evaluated.Faithful`: what is remembered of a placeholder is what evaluating it gives.
- `renderSpans_eq_renderAfresh`: with such a memory, sharing makes no difference.
- `Span.Yields`: the text that takes the place of a piece.
- `renderAfresh_of_yields`, `renderAfresh_of_first_error`: the text of a template, and its failure.
-/

namespace WebhookRelay.Template

variable {template : String} {document : Json}

/-! ## Evaluating afresh -/

/-- The text of one piece, evaluated by itself. -/
def Span.renderAfresh (template : String) (document : Json) : Span → Logged Failure String
  | .literal s => return s
  | .placeholder e => (substitution e document).mapError (failureIn template)

/-- The text of some pieces, each evaluated by itself. -/
def renderAfresh (template : String) (document : Json) : List Span → Logged Failure String
  | [] => return ""
  | span :: rest => do
    let first ← span.renderAfresh template document
    let others ← renderAfresh template document rest
    return first ++ others

/-- A query that has values leaves no records. -/
theorem findValues_of_ok {expression : String} {values : List Json}
    (h : (Query.findValues expression document).result = .ok values) :
    Query.findValues expression document = pure values := by
  unfold Query.findValues at h ⊢
  cases hcompile : Query.compile expression with
  | error failure =>
    rw [hcompile, Logged.of_error_bind] at h
    cases h
  | ok p =>
    rw [hcompile, Logged.of_ok_bind] at h
    rw [Logged.of_ok_bind]
    cases heval : Query.evaluate p document with
    | ok found =>
      rw [heval] at h
      cases h
      rfl
    | error e =>
      rw [heval] at h
      cases e <;> cases h

/-- Nor does a placeholder that has a text. -/
theorem substitution_of_ok {e s : String} (h : (substitution e document).result = .ok s) :
    substitution e document = pure s := by
  unfold substitution at h ⊢
  split at h
  case isTrue hblank =>
    rw [if_pos hblank]
    cases h
    rfl
  case isFalse hblank =>
    obtain ⟨values, hvalues, h⟩ := Logged.result_bind_eq_ok_iff.mp h
    rw [if_neg hblank, findValues_of_ok hvalues]
    rw [Logged.result_of] at h
    show Logged.of (join values) = _
    rw [h]
    rfl

/-! ## The memory -/

/-- Two placeholders that stand in a template alike have the same query. -/
theorem Span.text_placeholder_inj {e e' : String}
    (h : (Span.placeholder e).text = (Span.placeholder e').text) : e = e' := by
  simpa [Span.text] using h

/-- What is remembered of a placeholder is what evaluating its query gives. -/
def Evaluated.Faithful (document : Json) (done : Evaluated) : Prop :=
  ∀ e s, done.lookup (Span.placeholder e).text = some s → (substitution e document).result = .ok s

theorem Evaluated.Faithful.nil : Faithful document [] := nofun

theorem Evaluated.Faithful.put {done : Evaluated} (h : Faithful document done) {e s : String}
    (hs : (substitution e document).result = .ok s) :
    Faithful document (done.put (Span.placeholder e).text s) := by
  intro e' s' he'
  rw [Dictionary.lookup_put] at he'
  split at he'
  case isTrue heq =>
    obtain rfl := Span.text_placeholder_inj (eq_of_beq heq)
    cases he'
    exact hs
  case isFalse => exact h e' s' he'

/-- With a faithful memory, a piece ends as it does without one: in a text, and what is remembered
then is faithful again, or in the same failure with the same records. -/
theorem renderSpan_cases (template : String) {done : Evaluated} (h : done.Faithful document)
    (span : Span) :
    (∃ s done', span.renderAfresh template document = pure s ∧
      renderSpan template document done span = pure (s, done') ∧ done'.Faithful document) ∨
    ∃ records failure, span.renderAfresh template document = ⟨records, .error failure⟩ ∧
      renderSpan template document done span = ⟨records, .error failure⟩ := by
  cases span with
  | literal s => exact .inl ⟨s, done, rfl, rfl, h⟩
  | placeholder e =>
    rw [renderSpan, Span.renderAfresh]
    cases hlookup : done.lookup (Span.placeholder e).text with
    | some s =>
      rw [substitution_of_ok (h e s hlookup)]
      exact .inl ⟨s, done, rfl, rfl, h⟩
    | none =>
      cases hresult : (substitution e document).result with
      | ok s =>
        rw [substitution_of_ok hresult]
        exact .inl ⟨s, _, rfl, rfl, h.put hresult⟩
      | error failure =>
        have hfailure : ((substitution e document).mapError (failureIn template)).result =
            .error (failureIn template failure) := by
          rw [Logged.result_mapError, hresult]
          rfl
        refine .inr ⟨(substitution e document).records, failureIn template failure, ?_, ?_⟩
        · rw [Logged.mapError, hresult]
          rfl
        · exact Logged.bind_of_error hfailure _

/-- With a faithful memory, the pieces have the text that they have without one. The induction is on
the pieces, and the memory stays faithful from each to the next. -/
theorem renderSpans_eq_renderAfresh {done : Evaluated} (h : done.Faithful document)
    (spans : List Span) :
    renderSpans template document done spans = renderAfresh template document spans := by
  induction spans generalizing done with
  | nil => rfl
  | cons span spans ih =>
    rw [renderSpans, renderAfresh]
    obtain ⟨s, done', hafresh, hspan, hdone'⟩ | ⟨records, failure, hafresh, hspan⟩ :=
      renderSpan_cases template h span
    · rw [hafresh, hspan]
      show (renderSpans template document done' spans >>= fun others => pure (s ++ others)) = _
      rw [ih hdone']
      rfl
    · rw [hafresh, hspan]
      rfl

/-- Sharing makes no difference. -/
theorem render_eq_renderAfresh (template : String) (document : Json) :
    render template document = renderAfresh template document (scan template) :=
  renderSpans_eq_renderAfresh .nil (scan template)

/-! ## Texts and failures -/

/-- The text that takes the place of a piece. -/
inductive Span.Yields (document : Json) : Span → String → Prop where
  | literal (s : String) : Yields document (.literal s) s
  | placeholder {e s : String} (h : (substitution e document).result = .ok s) :
    Yields document (.placeholder e) s

/-- A piece has a text exactly if it is a literal or a placeholder with one. -/
theorem Span.yields_iff {span : Span} {s : String} :
    span.Yields document s ↔ (span.renderAfresh template document).result = .ok s := by
  cases span with
  | literal t =>
    constructor
    · rintro ⟨⟩
      rfl
    · intro h
      cases h
      exact .literal _
  | placeholder e =>
    rw [Span.renderAfresh, Logged.result_mapError]
    constructor
    · intro h
      cases h with
      | placeholder h =>
        rw [h]
        rfl
    · intro h
      refine .placeholder ?_
      cases hresult : (substitution e document).result with
      | ok t =>
        rw [hresult] at h
        exact congrArg _ (Except.ok.inj h)
      | error failure =>
        rw [hresult] at h
        cases h

/-- Pieces that have texts have the text that is made of them. -/
theorem renderAfresh_of_yields {spans : List Span} {parts : List String}
    (h : List.Forall₂ (Span.Yields document) spans parts) :
    (renderAfresh template document spans).result = .ok (String.join parts) := by
  induction h with
  | nil => rfl
  | cons hspan _ ih =>
    rw [renderAfresh, Logged.result_bind_of_ok (Span.yields_iff.mp hspan),
      Logged.result_bind_of_ok ih, Logged.result_pure, String.join_cons]

/-- A text of pieces is made of theirs. -/
theorem yields_of_renderAfresh {spans : List Span} {text : String}
    (h : (renderAfresh template document spans).result = .ok text) :
    ∃ parts, List.Forall₂ (Span.Yields document) spans parts ∧ text = String.join parts := by
  induction spans generalizing text with
  | nil =>
    cases h
    exact ⟨[], .nil, rfl⟩
  | cons span spans ih =>
    obtain ⟨first, hfirst, h⟩ := Logged.result_bind_eq_ok_iff.mp h
    obtain ⟨others, hothers, h⟩ := Logged.result_bind_eq_ok_iff.mp h
    obtain ⟨parts, hparts, rfl⟩ := ih hothers
    cases h
    exact ⟨first :: parts, .cons (Span.yields_iff.mpr hfirst) hparts, String.join_cons.symm⟩

/-- Every placeholder among some pieces has a text. -/
def Answered (document : Json) (spans : List Span) : Prop :=
  ∀ e, .placeholder e ∈ spans → ∃ s, (substitution e document).result = .ok s

/-- All pieces have texts exactly if the placeholders among them do. -/
theorem exists_yields_iff {spans : List Span} :
    (∃ parts, List.Forall₂ (Span.Yields document) spans parts) ↔ Answered document spans := by
  constructor
  · rintro ⟨parts, h⟩ e he
    induction h with
    | nil => cases he
    | cons hspan _ ih =>
      obtain rfl | he := List.mem_cons.mp he
      · cases hspan with
        | placeholder hs => exact ⟨_, hs⟩
      · exact ih he
  · intro h
    induction spans with
    | nil => exact ⟨[], .nil⟩
    | cons span spans ih =>
      obtain ⟨parts, hparts⟩ := ih fun e he => h e (List.mem_cons_of_mem span he)
      cases span with
      | literal s => exact ⟨s :: parts, .cons (.literal s) hparts⟩
      | placeholder e =>
        obtain ⟨s, hs⟩ := h e List.mem_cons_self
        exact ⟨s :: parts, .cons (.placeholder hs) hparts⟩

/-- If the pieces before a placeholder have texts and it has none, it tells why there is no text. -/
theorem renderAfresh_of_first_error {before after : List Span} {e : String} {failure : Failure}
    (hbefore : Answered document before)
    (h : (substitution e document).result = .error failure) :
    (renderAfresh template document (before ++ .placeholder e :: after)).result =
      .error (failureIn template failure) := by
  obtain ⟨parts, hparts⟩ := exists_yields_iff.mpr hbefore
  induction hparts with
  | nil =>
    refine Logged.result_bind_of_error ?_ _
    rw [Span.renderAfresh, Logged.result_mapError, h]
    rfl
  | cons hspan _ ih =>
    rw [List.cons_append, renderAfresh, Logged.result_bind_of_ok (Span.yields_iff.mp hspan)]
    exact Logged.result_bind_of_error
      (ih fun e he => hbefore e (List.mem_cons_of_mem _ he)) _

/-! ## What a placeholder is replaced with -/

/-- The texts of some values, with a comma and a space between two. -/
def listed : List Json → String
  | [] => ""
  | [v] => Query.toText v
  | v :: w :: rest => Query.toText v ++ ", " ++ listed (w :: rest)

theorem intercalate_toText (values : List Json) :
    separator.intercalate (values.map Query.toText) = listed values := by
  induction values with
  | nil => rfl
  | cons v values ih =>
    cases values with
    | nil => exact String.intercalate_singleton
    | cons w values =>
      rw [List.map_cons, List.map_cons, String.intercalate_cons_cons, ← List.map_cons, ih]
      rfl

/-- A placeholder is replaced with nothing if it is blank, and with its values otherwise, if they
can be written. -/
theorem result_substitution (e : String) (document : Json) :
    (substitution e document).result =
      if Text.isAllBlank e then .ok ""
      else (Query.findValues e document).result.bind fun values =>
        if values.any Json.hasOverlong then .error (.crash .overlongInteger)
        else .ok (listed values) := by
  unfold substitution
  split
  · rfl
  · rw [Logged.result_bind]
    congr 1
    funext values
    rw [Logged.result_of, join, intercalate_toText]

/-! ## Sharing -/

/-- A template is rendered as if each of its placeholders were evaluated by itself. -/
structure Shares (template : String) (document : Json) : Prop where
  /-- The records, too, are those of evaluating every placeholder afresh. -/
  afresh : render template document = renderAfresh template document (scan template)
  /-- There is a text exactly if every placeholder has one. -/
  total : (∃ text, (render template document).result = .ok text) ↔
    Answered document (scan template)
  /-- The text is made of those that take the places of the pieces. -/
  text : ∀ text, (render template document).result = .ok text →
    ∃ parts, List.Forall₂ (Span.Yields document) (scan template) parts ∧ text = String.join parts
  /-- A placeholder is replaced with nothing if it is blank, and with its values otherwise. They
  cannot be written if an integer in them has too many digits. -/
  values : ∀ e, (substitution e document).result =
    if Text.isAllBlank e then .ok ""
    else (Query.findValues e document).result.bind fun values =>
      if values.any Json.hasOverlong then .error (.crash .overlongInteger) else .ok (listed values)
  /-- A fault of the first placeholder without a text is the template's. -/
  fault : ∀ before e after reason, scan template = before ++ .placeholder e :: after →
    Answered document before → (substitution e document).result = .error (.config reason) →
    (render template document).result = .error (.config (.template template reason))
  /-- So is its crash. -/
  crash : ∀ before e after c, scan template = before ++ .placeholder e :: after →
    Answered document before → (substitution e document).result = .error (.crash c) →
    (render template document).result = .error (.crash c)

/-- **Sharing is invisible**: every template has the text, the failure and the records that it has
if each placeholder is evaluated by itself. It has a text exactly if all placeholders have one, and
the text is then theirs and the literals', piece by piece: what takes the place of a placeholder is
not read again. Otherwise the first placeholder without a text tells why. -/
theorem render_shares (template : String) (document : Json) : Shares template document where
  afresh := render_eq_renderAfresh template document
  total := by
    rw [← exists_yields_iff, render_eq_renderAfresh]
    constructor
    · rintro ⟨text, htext⟩
      obtain ⟨parts, hparts, -⟩ := yields_of_renderAfresh htext
      exact ⟨parts, hparts⟩
    · rintro ⟨parts, hparts⟩
      exact ⟨String.join parts, renderAfresh_of_yields hparts⟩
  text text htext := by
    rw [render_eq_renderAfresh] at htext
    exact yields_of_renderAfresh htext
  values e := result_substitution e document
  fault before e after reason hscan hbefore h := by
    rw [render_eq_renderAfresh, hscan]
    exact renderAfresh_of_first_error hbefore h
  crash before e after c hscan hbefore h := by
    rw [render_eq_renderAfresh, hscan]
    exact renderAfresh_of_first_error hbefore h

/-- Behind a placeholder that crashes, a fault is not the template's. -/
theorem render_ne_fault_of_crash :
    scan "|$.a[-2]||$[|" = [.placeholder "$.a[-2]", .placeholder "$["] ∧
    (substitution "$[" (.object [("a", .array [.int 1])])).result =
      .error (.config (.querySyntax "$[" .unexpectedEnd)) ∧
    ∀ reason, (render "|$.a[-2]||$[|" (.object [("a", .array [.int 1])])).result ≠
      .error (.config (.template "|$.a[-2]||$[|" reason)) := by
  have hcrash : (render "|$.a[-2]||$[|" (.object [("a", .array [.int 1])])).result =
      .error (.crash .indexOutOfRange) := by decide +kernel
  refine ⟨by decide +kernel, by decide +kernel, ?_⟩
  intro reason h
  rw [hcrash] at h
  cases h

/-- A text that takes the place of a placeholder may have bars of its own. -/
example : (render "|$.a| |$.a|" (.object [("a", .string "|$.a|")])).result =
    .ok "|$.a| |$.a|" := by decide +kernel

end WebhookRelay.Template
