import WebhookRelay.Fault
import WebhookRelay.Json.Writer
import WebhookRelay.Log.Record
import WebhookRelay.Query.Eval

/-!
# Queries and predicates

A query selects values from a document. A predicate is evaluated on the one-element array that holds
the document, so that a subscript on the root addresses that element; every other root in it is made
to go through the array first.

- `Query.compile`, `Query.compilePredicate`: the path of an expression.
- `Query.address`: the path that goes through the array.
- `Query.findValues`: the values that a query selects.
- `Query.hasMatch`: does a predicate select anything?
- `Query.toText`: a selected value as text.

What is recorded and answered about an expression that cannot be evaluated ends with a cause in the
words of the interpreter of queries. That part is left out here.
-/

namespace WebhookRelay.Query

/-- The failure that an error in an expression is. -/
def failureOfRead (expression : String) : ReadError → Failure
  | .syntaxError e => .config (.querySyntax expression e)
  | .badDefinition => .crash .badDefinition
  | .badPattern .malformed => .crash .badPattern
  | .badPattern .countTooLarge => .crash .overflow
  | .badPattern .conflictingFlags => .crash .conflictingFlags
  | .overlongInteger => .crash .overlongInteger

/-- The path of a query. A path that joins two others by `&` has no meaning. -/
def compile (expression : String) : Except Failure Path :=
  match Path.read expression with
  | .error e => .error (failureOfRead expression e)
  | .ok p =>
    if p.usesIntersect then .error (.config (.querySyntax expression .intersect)) else .ok p

/-- Is the path a subscript, which addresses the array around the document when it stands directly
on the root? -/
def isRootSubscript : Path → Bool
  | .filter _ | .index _ | .slice _ _ _ | .sorted _ => true
  | _ => false

mutual

/-- The path that selects from the one-element array of a document what the given one selects from
the document. A subscript directly on the root is left alone; so are conditions and sort keys. -/
def address : Path → Path
  | .root => .child .root (.slice none none none)
  | .child .root r =>
    if isRootSubscript r then .child .root r
    else .child (.child .root (.slice none none none)) (address r)
  | .child l r => .child (address l) (address r)
  | .descendants l r => .descendants (address l) (address r)
  | .where l r => .where (address l) (address r)
  | .whereNot l r => .whereNot (address l) (address r)
  | .union l r => .union (address l) (address r)
  | .intersect l r => .intersect (address l) (address r)
  | .arithmetic op l r => .arithmetic op (addressOperand l) (addressOperand r)
  | p => p

/-- The operand that goes through the array. -/
def addressOperand : Operand → Operand
  | .path p => .path (address p)
  | .literal x => .literal x

end

/-- The path of a predicate. -/
def compilePredicate (expression : String) : Except Failure Path :=
  (compile expression).map address

/-- The values that a path selects from a document. -/
def evaluate (p : Path) (document : Json) : Except EvalError (List Json) :=
  Memory.run p.sharesPlaces do
    let found ← p.select (← Datum.document document)
    (← found.list).mapM Datum.read

/-- The name under which queries leave records. -/
def logger : String := "hookrelay.services.query"

/-- The failure that an error in the evaluation of an expression is. -/
def failureOfEval (expression : String) : EvalError → Failure
  | .mismatch => .config (.queryFailed expression)
  | .unsupported => .config .queryUnsupported
  | .indexOutOfRange => .crash .indexOutOfRange
  | .overflow => .crash .overflow
  | .badPattern => .crash .badPattern
  | .unknownGroup => .crash .unknownGroup

/-- The values that a query selects from a document. -/
def findValues (expression : String) (document : Json) : Logged Failure (List Json) := do
  let path ← .of (compile expression)
  match evaluate path document with
  | .ok values => return values
  | .error .mismatch =>
    .say .error logger s!"Query {Text.quoted expression} failed during evaluation" []
    .fail (.config (.queryFailed expression))
  | .error e => .fail (failureOfEval expression e)

/-- Does a predicate select anything? One that does not apply to the values of the document selects
nothing. -/
def hasMatch (expression : String) (document : Json) : Logged Failure Bool := do
  let path ← .of (compilePredicate expression)
  match evaluate path (.array [document]) with
  | .ok values => return !values.isEmpty
  | .error .mismatch =>
    .say .info logger s!"Predicate {Text.quoted expression} selected nothing from this body" []
    return false
  | .error e => .fail (failureOfEval expression e)

/-- A query ends as its evaluation does. -/
theorem result_findValues (expression : String) (document : Json) :
    (findValues expression document).result =
      compile expression >>= fun p =>
        (evaluate p document).mapError (failureOfEval expression) := by
  unfold findValues
  rw [Logged.result_bind, Logged.result_of]
  congr 1
  funext p
  cases evaluate p document with
  | ok values => rfl
  | error e => cases e <;> rfl

/-- An expression that cannot be used is the operator's fault, if it is a fault at all. -/
theorem fault_of_compile {expression : String} {f : Fault}
    (h : compile expression = .error (.fault f)) : ∃ cause, f = .config cause := by
  unfold compile at h
  cases hread : Path.read expression with
  | error e =>
    rw [hread] at h
    cases e with
    | syntaxError e =>
      cases h
      exact ⟨_, rfl⟩
    | badDefinition | overlongInteger => cases h
    | badPattern p => cases p <;> cases h
  | ok p =>
    rw [hread] at h
    dsimp only at h
    split at h
    · cases h
      exact ⟨_, rfl⟩
    · cases h

/-- An expression that does not apply to the values it meets is the operator's fault, too. -/
theorem fault_of_failureOfEval {expression : String} {e : EvalError} {f : Fault}
    (h : failureOfEval expression e = .fault f) : ∃ cause, f = .config cause := by
  cases e with
  | mismatch | unsupported =>
    cases h
    exact ⟨_, rfl⟩
  | indexOutOfRange | overflow | badPattern | unknownGroup => cases h

/-- A query has no faults but the operator's. -/
theorem fault_of_findValues {expression : String} {document : Json} {f : Fault}
    (h : (findValues expression document).result = .error (.fault f)) :
    ∃ cause, f = .config cause := by
  rw [result_findValues] at h
  cases hcompile : compile expression with
  | error failure =>
    rw [hcompile] at h
    cases h
    exact fault_of_compile hcompile
  | ok p =>
    rw [hcompile] at h
    replace h : (evaluate p document).mapError (failureOfEval expression) = .error (.fault f) := h
    cases heval : evaluate p document with
    | ok values =>
      rw [heval] at h
      cases h
    | error e =>
      rw [heval] at h
      exact fault_of_failureOfEval (Except.error.inj h)

/-- What a predicate says when its evaluation ends in this way. -/
def verdict (expression : String) : Except EvalError (List Json) → Except Failure Bool
  | .ok values => .ok (!values.isEmpty)
  | .error .mismatch => .ok false
  | .error e => .error (failureOfEval expression e)

/-- A predicate ends in the verdict on its evaluation. -/
theorem result_hasMatch (expression : String) (document : Json) :
    (hasMatch expression document).result =
      compilePredicate expression >>= fun p =>
        verdict expression (evaluate p (.array [document])) := by
  unfold hasMatch
  rw [Logged.result_bind, Logged.result_of]
  congr 1
  funext p
  cases evaluate p (.array [document]) with
  | ok values => rfl
  | error e => cases e <;> rfl

/-- A selected value as text: texts as they are, a floating-point number without a fractional part
as an integer, and containers as JSON. Whether an integer in it has too many digits is not asked
here. -/
def toText : Json → String
  | .string s => s
  | .null => "null"
  | .bool b => if b then "true" else "false"
  | .int n => String.ofList (Text.showInteger n)
  | .float x =>
    match x.toDyadic? with
    | some d => if d.isInteger then String.ofList (Text.showInteger d.truncate) else x.toText
    | none => x.toText
  | v => v.compact

end WebhookRelay.Query
