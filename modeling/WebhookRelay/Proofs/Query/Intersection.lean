import WebhookRelay.Filter
import WebhookRelay.Proofs.Query.Evaluation

/-!
# Predicates that join paths

Two paths that are joined by `&` can be read, but not evaluated. Where a predicate joins paths by
itself, it is refused before it meets a document. Where it does so within a condition or a sort key
only, it is not, and then it depends on the document whether the evaluation comes there.

- `Path.holdsIntersect`: does a path join two others by `&`, in its conditions and sort keys too?
- `compile_of_read`: a path that does so outside of them is refused.
- `misconfigured_iff`: without those that do so within them only, the operator is at fault with a
  predicate for every document or for none.
-/

namespace WebhookRelay.Query

/-- Does a path join two others by `&`, wherever it does? -/
def Path.holdsIntersect (p : Path) : Bool :=
  p.anywhere (fun | .intersect _ _ => true | _ => false) fun _ => false

/-- What has no meaning is a join, and nothing else. -/
theorem mayEndIn_unsupported (p : Path) : p.mayEndIn .unsupported = p.holdsIntersect := by
  have hstep : EvalError.unsupported.arisesAt = fun | .intersect _ _ => true | _ => false := by
    funext q
    cases q with
    | substitute pattern replacement =>
      rw [EvalError.arisesAt]
      split <;> rfl
    | index n => exact Bool.false_and (decide (n < 0))
    | _ => rfl
  have hcondition : EvalError.unsupported.arisesIn = fun _ => false := by
    funext c
    unfold EvalError.arisesIn
    split
    · rfl
    · rfl
    · split
      · rename_i broken _
        cases broken <;> rfl
      · rfl
    · rfl
  rw [Path.mayEndIn, Path.holdsIntersect, hstep, hcondition]

/-- A path that has been read is refused exactly if it joins two others outside of its conditions
and sort keys. -/
theorem compile_of_read {expression : String} {p : Path} (h : Path.read expression = .ok p) :
    compile expression = if p.usesIntersect then
      .error (.config (.querySyntax expression .intersect)) else .ok p := by
  rw [compile, h]

/-- A path that is not refused has been read, and joins no others outside of its conditions and sort
keys. -/
theorem read_of_compile {expression : String} {p : Path} (h : compile expression = .ok p) :
    Path.read expression = .ok p ∧ p.usesIntersect = false := by
  cases hread : Path.read expression with
  | error e =>
    rw [compile, hread] at h
    cases h
  | ok q =>
    rw [compile_of_read hread] at h
    split at h
    · cases h
    · rename_i huses
      cases h
      exact ⟨rfl, Bool.eq_false_iff.mpr huses⟩

/-- A predicate that is refused is at fault for every document, and one that is not only where the
evaluation comes to paths that are joined. -/
theorem result_hasMatch_eq_config {expression : String} {document : Json} {f : ConfigFault}
    (h : (hasMatch expression document).result = .error (.config f)) :
    compile expression = .error (.config f) ∨
      f = .queryUnsupported ∧ ∃ p, compile expression = .ok p ∧ p.holdsIntersect = true := by
  rw [result_hasMatch_of_compile] at h
  obtain hcompile | ⟨p, hcompile, h⟩ := error_of_bind h
  · exact .inl hcompile
  right
  cases heval : evaluate (address p) (.array [document]) with
  | ok values =>
    rw [heval] at h
    cases h
  | error e =>
    rw [heval] at h
    cases e with
    | unsupported =>
      cases h
      have hholds := (error_of_evaluate_address heval).resolve_left nofun
      exact ⟨rfl, p, hcompile, mayEndIn_unsupported p ▸ hholds⟩
    | mismatch | indexOutOfRange | overflow | badPattern | unknownGroup => cases h

/-- The operator is at fault with a predicate that meets a document. -/
def Misconfigured (expression : String) (document : Json) : Prop :=
  ∃ f, (Match.of (some expression) document).result = .error (.config f)

variable {expression : String}

theorem result_match_eq_config {document : Json} {f : ConfigFault} :
    (Match.of (some expression) document).result = .error (.config f) ↔
      (hasMatch expression document).result = .error (.config f) := by
  rw [Match.result_of_some]
  cases (hasMatch expression document).result with
  | ok found => exact ⟨nofun, nofun⟩
  | error failure =>
    constructor
    · intro h
      cases h
      rfl
    · intro h
      cases h
      rfl

theorem misconfigured_of_compile {f : ConfigFault} (h : compile expression = .error (.config f))
    (document : Json) : Misconfigured expression document := by
  refine ⟨f, result_match_eq_config.mpr ?_⟩
  rw [result_hasMatch_of_compile, h]
  rfl

/-- **Misconfigured for every document or for none**: an expression whose path joins two others by
`&` outside of its conditions and sort keys is refused, and no other one is refused for that. What a
predicate is at fault with is that its expression is refused, or that its path joins two others
within a condition or a sort key only. If it does not, the predicate is at fault for every document
or for none. -/
theorem misconfigured_iff (expression : String) :
    (∀ p, Path.read expression = .ok p →
      (compile expression = .error (.config (.querySyntax expression .intersect)) ↔
        p.usesIntersect = true)) ∧
    (∀ document f, (Match.of (some expression) document).result = .error (.config f) →
      compile expression = .error (.config f) ∨
      f = .queryUnsupported ∧
        ∃ p, Path.read expression = .ok p ∧ p.holdsIntersect = true ∧ p.usesIntersect = false) ∧
    ((∀ p, Path.read expression = .ok p → p.holdsIntersect = true → p.usesIntersect = true) →
      ∀ d d', Misconfigured expression d ↔ Misconfigured expression d') := by
  have hfault : ∀ document f,
      (Match.of (some expression) document).result = .error (.config f) →
      compile expression = .error (.config f) ∨
      f = .queryUnsupported ∧
        ∃ p, Path.read expression = .ok p ∧ p.holdsIntersect = true ∧ p.usesIntersect = false := by
    intro document f h
    obtain h | ⟨hf, p, hcompile, hholds⟩ :=
      result_hasMatch_eq_config (result_match_eq_config.mp h)
    · exact .inl h
    · obtain ⟨hread, huses⟩ := read_of_compile hcompile
      exact .inr ⟨hf, p, hread, hholds, huses⟩
  refine ⟨?_, hfault, ?_⟩
  · intro p hread
    rw [compile_of_read hread]
    split
    · exact iff_of_true rfl ‹_›
    · exact iff_of_false nofun ‹_›
  · intro hnone
    have hall : ∀ d d', Misconfigured expression d → Misconfigured expression d' := by
      rintro d d' ⟨f, h⟩
      obtain hcompile | ⟨_, p, hread, hholds, huses⟩ := hfault d f h
      · exact misconfigured_of_compile hcompile d'
      · -- The path would join others within its conditions and sort keys only.
        rw [hnone p hread hholds] at huses
        cases huses
    exact fun d d' => ⟨hall d d', hall d' d⟩

/-- Two paths that are joined by themselves are refused, whatever the document. -/
theorem misconfigured_iff_of_join :
    (∀ p, Path.read "($.a) & ($.b)" = .ok p → p.holdsIntersect = true → p.usesIntersect = true) ∧
    Misconfigured "($.a) & ($.b)" .null ∧
      Misconfigured "($.a) & ($.b)" (.object [("a", .int 1)]) := by
  have hread : Path.read "($.a) & ($.b)" =
      .ok (.intersect (.child .root (.fields ["a"])) (.child .root (.fields ["b"]))) := by rfl
  have hnone : ∀ p, Path.read "($.a) & ($.b)" = .ok p → p.holdsIntersect = true →
      p.usesIntersect = true := by
    intro p hp _
    rw [hread] at hp
    cases hp
    rfl
  obtain ⟨hrefused, -, hiff⟩ := misconfigured_iff "($.a) & ($.b)"
  have hnull := misconfigured_of_compile ((hrefused _ hread).mpr rfl) .null
  exact ⟨hnone, hnull, (hiff hnone .null _).mp hnull⟩

/-- Paths that are joined within a condition are not refused. Where there is an item to ask for the
condition, the operator is at fault; where there is none, the predicate does not match. -/
theorem misconfigured_ne_of_condition :
    ∃ p, Path.read "$.a[?(@.x & @.y)]" = .ok p ∧ p.holdsIntersect = true ∧
      compile "$.a[?(@.x & @.y)]" = .ok p ∧
      Misconfigured "$.a[?(@.x & @.y)]" (.object [("a", .array [.int 1])]) ∧
      (Match.of (some "$.a[?(@.x & @.y)]") (.object [("a", .array [])])).result =
        .ok .unmatched := by
  let p : Path := .child (.child .root (.fields ["a"]))
    (.filter [.found (.child (.child .this (.intersect (.fields ["x"]) .this)) (.fields ["y"]))])
  have hread : Path.read "$.a[?(@.x & @.y)]" = .ok p := by rfl
  have hcompile : compile "$.a[?(@.x & @.y)]" = .ok p := by
    rw [compile_of_read hread]
    rfl
  have hitem : evaluate (address p) (.array [.object [("a", .array [.int 1])]]) =
      .error .unsupported := by
    rw [evaluate_eq rfl]
    rfl
  have hnone : evaluate (address p) (.array [.object [("a", .array [])]]) = .ok [] := by
    rw [evaluate_eq rfl]
    rfl
  refine ⟨p, hread, rfl, hcompile, ⟨.queryUnsupported, ?_⟩, ?_⟩
  · rw [result_match_eq_config, result_hasMatch_of_compile, hcompile, ok_bind, hitem]
    rfl
  · rw [Match.result_of_some, result_hasMatch_of_compile, hcompile, ok_bind, hnone]
    rfl

end WebhookRelay.Query
