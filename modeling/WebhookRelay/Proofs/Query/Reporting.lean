import WebhookRelay.Filter
import WebhookRelay.Proofs.Query.Evaluation
import WebhookRelay.Template

/-!
# What is reported to the operator

A query, a predicate or a template that cannot be used is a fault of the operator's. Some of them
crash instead: a definition or a pattern in the expression cannot be read, or one of its steps ends
in an error that is reported to nobody. Which crashes there can be is to be seen from the
expression; what the document is makes no difference. Only a template can crash at the document,
too: when an integer in a selected value has too many digits to be written.

- `mayCrash`: can an expression crash in this way?
- `ConfigFault.Concerns`: the faults of an expression.
- `Reported`: a value, a fault of the operator's, or a crash that there can be.
- `Reported.findValues`, `Reported.hasMatch`, `Reported.render`: so end queries, predicates and
  templates.
-/

namespace WebhookRelay

/-! ## Crashes and faults of an expression -/

namespace Query

/-- All reasons why a path cannot be evaluated. -/
def EvalError.all : List EvalError :=
  [.mismatch, .unsupported, .indexOutOfRange, .overflow, .badPattern, .unknownGroup]

theorem EvalError.mem_all (e : EvalError) : e ∈ all := by
  cases e <;> decide

/-- Can an expression crash in this way, either when it is read or at a step or condition of its
path? -/
def mayCrash (expression : String) (c : Crash) : Bool :=
  match compile expression with
  | .error failure => failure = .crash c
  | .ok p =>
    EvalError.all.any fun e => p.mayEndIn e && (failureOfEval expression e = .crash c : Bool)

theorem mayCrash_of_compile {expression : String} {c : Crash}
    (h : compile expression = .error (.crash c)) : mayCrash expression c = true := by
  rw [mayCrash, h]
  exact decide_eq_true rfl

theorem mayCrash_of_mayEndIn {expression : String} {c : Crash} {p : Path} {e : EvalError}
    (hcompile : compile expression = .ok p) (he : p.mayEndIn e = true)
    (hc : failureOfEval expression e = .crash c) : mayCrash expression c = true := by
  rw [mayCrash, hcompile]
  refine List.any_eq_true.mpr ⟨e, e.mem_all, ?_⟩
  rw [he, hc]
  exact decide_eq_true rfl

/-- To choose items by comparing texts, and to take the first of them, crashes on no document. -/
example (c : Crash) : mayCrash "$.a[?(@.b == 'x')][0]" c = false := by
  have hcompile : compile "$.a[?(@.b == 'x')][0]" = .ok (.child (.child (.child .root
      (.fields ["a"])) (.filter [.compared (.child .this (.fields ["b"])) .equal (.text "x")]))
      (.index 0)) := by rfl
  rw [mayCrash, hcompile]
  cases c <;> decide

end Query

/-- Can a template crash in this way, at one of its placeholders? What a placeholder selects may be
an integer that has too many digits to be written. -/
def Template.mayCrash (template : String) (c : Crash) : Bool :=
  (scan template).any fun
    | .literal _ => false
    | .placeholder e => Query.mayCrash e c || (c = .overlongInteger : Bool)

/-- A fault is one of an expression: it cannot be read, does not apply, or has no meaning. -/
inductive ConfigFault.Concerns (expression : String) : ConfigFault → Prop where
  | querySyntax (error : Query.SyntaxError) : Concerns expression (.querySyntax expression error)
  | queryFailed : Concerns expression (.queryFailed expression)
  | queryUnsupported : Concerns expression .queryUnsupported

/-- A fault is one of a template: it names the template and the fault of one of its placeholders. -/
inductive ConfigFault.Blames (template : String) : ConfigFault → Prop where
  | placeholder {e : String} {reason : ConfigFault} (he : .placeholder e ∈ Template.scan template)
    (h : reason.Concerns e) : Blames template (.template template reason)

/-- A result is a value, a fault of the operator's of some kind, or a crash of some kind. -/
inductive Reported {α : Type} (faults : ConfigFault → Prop) (crashes : Crash → Prop) :
    Except Failure α → Prop where
  | value (a : α) : Reported faults crashes (.ok a)
  | fault {f : ConfigFault} (h : faults f) : Reported faults crashes (.error (.config f))
  | crash {c : Crash} (h : crashes c) : Reported faults crashes (.error (.crash c))

namespace Reported

open Query

variable {α β : Type} {faults faults' : ConfigFault → Prop} {crashes crashes' : Crash → Prop}

/-- What is done with a value does not matter. -/
theorem map {x : Except Failure α} (h : Reported faults crashes x) (f : α → β) :
    Reported faults crashes (x.map f) := by
  cases h with
  | value a => exact .value (f a)
  | fault h => exact .fault h
  | crash h => exact .crash h

/-- More faults and crashes may be allowed. -/
theorem mono {x : Except Failure α} (h : Reported faults crashes x)
    (hfaults : ∀ f, faults f → faults' f) (hcrashes : ∀ c, crashes c → crashes' c) :
    Reported faults' crashes' x := by
  cases h with
  | value a => exact .value a
  | fault h => exact .fault (hfaults _ h)
  | crash h => exact .crash (hcrashes _ h)

/-- What has been reported first stays so; otherwise it matters what is gone on with. -/
theorem bind {x : Except Failure α} {f : α → Except Failure β} (h : Reported faults crashes x)
    (hf : ∀ a, x = .ok a → Reported faults crashes (f a)) : Reported faults crashes (x >>= f) := by
  cases h with
  | value a => exact hf a rfl
  | fault h => exact .fault h
  | crash h => exact .crash h

/-- An expression is compiled, or that ends in a fault or a crash of its own. -/
theorem compile (expression : String) :
    Reported (ConfigFault.Concerns expression) (mayCrash expression · = true)
      (Query.compile expression) := by
  cases hcompile : Query.compile expression with
  | ok p => exact .value p
  | error failure =>
    have hcrash := fun c h => mayCrash_of_compile (c := c) (hcompile.trans h)
    unfold Query.compile at hcompile
    split at hcompile
    · rename_i e _
      cases hcompile
      cases e with
      | syntaxError e => exact .fault (.querySyntax e)
      | badDefinition | overlongInteger => exact .crash (hcrash _ rfl)
      | badPattern broken => cases broken <;> exact .crash (hcrash _ rfl)
    · split at hcompile <;> cases hcompile
      exact .fault (.querySyntax .intersect)

/-- What an evaluation ends in, besides values. -/
theorem eval {expression : String} {p : Path} {e : EvalError}
    (hcompile : Query.compile expression = .ok p)
    (he : e = .mismatch ∨ p.mayEndIn e = true) :
    Reported (α := α) (ConfigFault.Concerns expression) (mayCrash expression · = true)
      (.error (failureOfEval expression e)) := by
  cases e with
  | mismatch => exact .fault .queryFailed
  | unsupported => exact .fault .queryUnsupported
  | indexOutOfRange | overflow | badPattern | unknownGroup =>
    obtain ⟨⟨⟩⟩ | he := he
    exact .crash (mayCrash_of_mayEndIn hcompile he rfl)

/-! ## Queries and predicates -/

/-- A query ends in values, in a fault of its expression, or in a crash that there can be. -/
theorem findValues (expression : String) (document : Json) :
    Reported (ConfigFault.Concerns expression) (mayCrash expression · = true)
      (Query.findValues expression document).result := by
  rw [result_findValues]
  refine (compile expression).bind ?_
  intro p hp
  cases heval : evaluate p document with
  | ok values => exact .value values
  | error e => exact eval hp (error_of_evaluate heval)

/-- A predicate ends in an answer, in a fault of its expression, or in a crash that there can be. -/
theorem hasMatch (expression : String) (document : Json) :
    Reported (ConfigFault.Concerns expression) (mayCrash expression · = true)
      (Query.hasMatch expression document).result := by
  rw [result_hasMatch_of_compile]
  refine (compile expression).bind ?_
  intro p hp
  cases heval : evaluate (address p) (.array [document]) with
  | ok values => exact .value _
  | error e =>
    have he := error_of_evaluate_address heval
    cases e with
    | mismatch => exact .value false
    | unsupported | indexOutOfRange | overflow | badPattern | unknownGroup => exact eval hp he

/-- So does a rule. Without a predicate nothing can fail. -/
theorem match_of (predicate : Option String) (document : Json) :
    Reported (fun f => ∃ expression ∈ predicate, f.Concerns expression)
      (fun c => ∃ expression ∈ predicate, mayCrash expression c = true)
      (Match.of predicate document).result := by
  cases predicate with
  | none => exact .value Match.absent
  | some expression =>
    rw [Match.result_of_some]
    refine .map ?_ _
    refine (hasMatch expression document).mono ?_ ?_
    · exact fun f h => ⟨expression, rfl, h⟩
    · exact fun c h => ⟨expression, rfl, h⟩

/-! ## Templates -/

section Rendering

variable {template : String} {document : Json}

/-- What a placeholder is replaced with. -/
theorem substitution (expression : String) (document : Json) :
    Reported (ConfigFault.Concerns expression)
      (fun c => (Query.mayCrash expression c || (c = .overlongInteger : Bool)) = true)
      (Template.substitution expression document).result := by
  unfold Template.substitution
  split
  · exact .value ""
  · rw [Logged.result_bind]
    refine ((findValues expression document).mono (fun _ h => h) ?_).bind ?_
    · exact fun c h => Bool.or_eq_true_iff.mpr (.inl h)
    · intro values _
      rw [Logged.result_of, Template.join]
      split
      · exact .crash (Bool.or_eq_true_iff.mpr (.inr (decide_eq_true rfl)))
      · exact .value _

/-- What is reported of a placeholder is reported of its template. -/
theorem failureIn {x : Except Failure α} {e : String} (he : .placeholder e ∈ Template.scan template)
    (h : Reported (ConfigFault.Concerns e)
      (fun c => (Query.mayCrash e c || (c = .overlongInteger : Bool)) = true) x) :
    Reported (ConfigFault.Blames template) (Template.mayCrash template · = true)
      (x.mapError (Template.failureIn template)) := by
  cases h with
  | value a => exact .value a
  | fault h => exact .fault (.placeholder he h)
  | crash h => exact .crash (List.any_eq_true.mpr ⟨_, he, h⟩)

/-- The text of a piece of a template. -/
theorem renderSpan (done : Template.Evaluated) {span : Template.Span}
    (hspan : span ∈ Template.scan template) :
    Reported (ConfigFault.Blames template) (Template.mayCrash template · = true)
      (Template.renderSpan template document done span).result := by
  cases span with
  | literal s => exact .value (s, done)
  | placeholder e =>
    unfold Template.renderSpan
    dsimp only
    split
    · exact .value _
    · rw [Logged.result_bind, Logged.result_mapError]
      refine ((substitution e document).failureIn hspan).bind ?_
      intro s _
      exact .value _

/-- The text of some pieces of a template, whatever has been evaluated before. -/
theorem renderSpans (done : Template.Evaluated) {spans : List Template.Span}
    (hspans : ∀ span ∈ spans, span ∈ Template.scan template) :
    Reported (ConfigFault.Blames template) (Template.mayCrash template · = true)
      (Template.renderSpans template document done spans).result := by
  induction spans generalizing done with
  | nil => exact .value ""
  | cons span rest ih =>
    rw [Template.renderSpans, Logged.result_bind]
    refine (renderSpan done (hspans span List.mem_cons_self)).bind ?_
    rintro ⟨first, done⟩ _
    rw [Logged.result_bind]
    refine (ih done fun s hs => hspans s (List.mem_cons_of_mem span hs)).bind ?_
    intro others _
    exact .value _

/-- A template ends in a text, in a fault that names it, or in a crash that there can be. -/
theorem render (template : String) (document : Json) :
    Reported (ConfigFault.Blames template) (Template.mayCrash template · = true)
      (Template.render template document).result :=
  renderSpans [] fun _ h => h

end Rendering

end Reported

/-- **Failures are reported**: whatever the expression and the document, a query, a predicate and a
rule end in a value or in a fault of the expression, and a template in a text or in a fault that
names the template and the fault of one of its placeholders. They crash only in a way in which the
expression, or a placeholder of the template, can crash by itself: when it cannot be read, or at a
step or condition of its path. What a placeholder selects can be an integer with too many digits to
be written; that crashes, too. -/
theorem failures_reported (document : Json) :
    (∀ expression, Reported (ConfigFault.Concerns expression) (Query.mayCrash expression · = true)
      (Query.findValues expression document).result) ∧
    (∀ expression, Reported (ConfigFault.Concerns expression) (Query.mayCrash expression · = true)
      (Query.hasMatch expression document).result) ∧
    (∀ predicate, Reported (fun f => ∃ expression ∈ predicate, f.Concerns expression)
      (fun c => ∃ expression ∈ predicate, Query.mayCrash expression c = true)
      (Match.of predicate document).result) ∧
    ∀ template, Reported (ConfigFault.Blames template) (Template.mayCrash template · = true)
      (Template.render template document).result := by
  refine ⟨?_, ?_, ?_, ?_⟩
  · exact fun expression => .findValues expression document
  · exact fun expression => .hasMatch expression document
  · exact fun predicate => .match_of predicate document
  · exact fun template => .render template document

/-- A number that counts from the end of too short an array is reported to nobody: the query, the
predicate and the template that hold it crash. -/
theorem not_reported_of_index :
    ¬ Reported (fun _ => True) (fun _ => False)
      (Query.findValues "$.a[-2]" (.object [("a", .array [.int 1])])).result ∧
    ¬ Reported (fun _ => True) (fun _ => False)
      (Query.hasMatch "$.a[-2]" (.object [("a", .array [.int 1])])).result ∧
    ¬ Reported (fun _ => True) (fun _ => False)
      (Template.render "|$.a[-2]|" (.object [("a", .array [.int 1])])).result := by
  let p : Query.Path := .child (.child .root (.fields ["a"])) (.index (-2))
  have hcompile : Query.compile "$.a[-2]" = .ok p := by rfl
  have hquery : Query.evaluate p (.object [("a", .array [.int 1])]) =
      .error .indexOutOfRange := by
    rw [Query.evaluate_eq rfl]
    rfl
  have hpredicate : Query.evaluate (Query.address p)
      (.array [.object [("a", .array [.int 1])]]) = .error .indexOutOfRange := by
    rw [Query.evaluate_eq rfl]
    rfl
  have hvalues : (Query.findValues "$.a[-2]" (.object [("a", .array [.int 1])])).result =
      .error (.crash .indexOutOfRange) := by
    rw [Query.result_findValues, hcompile, Query.ok_bind, hquery]
    rfl
  have hnot : ∀ {α : Type} {x : Except Failure α}, x = .error (.crash .indexOutOfRange) →
      ¬ Reported (fun _ => True) (fun _ => False) x := by
    rintro α x rfl h
    cases h with
    | crash h => exact h
  refine ⟨hnot hvalues, hnot ?_, hnot ?_⟩
  · rw [Query.result_hasMatch_of_compile, hcompile, Query.ok_bind, hpredicate]
    rfl
  · have hscan : Template.scan "|$.a[-2]|" = [.placeholder "$.a[-2]"] := by rfl
    have hsubstitution : (Template.substitution "$.a[-2]"
        (.object [("a", .array [.int 1])])).result = .error (.crash .indexOutOfRange) := by
      rw [Template.substitution, if_neg (by decide)]
      exact Logged.result_bind_of_error hvalues _
    rw [Template.render, hscan]
    refine Logged.result_bind_of_error (Logged.result_bind_of_error ?_ _) _
    rw [Logged.result_mapError, hsubstitution]
    rfl

end WebhookRelay
