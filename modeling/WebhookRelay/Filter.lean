import WebhookRelay.Dictionary
import WebhookRelay.Event
import WebhookRelay.Query

/-!
# Filtering deliveries

Each event may have a predicate and an action. What the predicate says about a document, together
with the action, decides whether the delivery is relayed or dropped.

- `EventFilter`, `MatchConfig`: the rules.
- `Match`: what a predicate says about a document; `Match.of` asks it.
- `Match.resolve`: the action to take.
-/

namespace WebhookRelay

/-- What to do with one event when its predicate matches. -/
structure EventFilter where
  predicate : Option String
  action : Option Action
deriving DecidableEq, Repr

/-- The filter of an event that has no rule. -/
def EventFilter.empty : EventFilter := ⟨none, none⟩

/-- The rules for all events, and the action for an event without a predicate. -/
structure MatchConfig where
  filters : Dictionary Event EventFilter
  unmatchedDefault : Action
deriving DecidableEq, Repr

/-- The rule for an event. -/
def MatchConfig.filterFor (c : MatchConfig) (e : Event) : EventFilter :=
  (c.filters.lookup e).getD .empty

/-- A rule that is written is the rule for its event, and for no other one. -/
theorem filterFor_put (filters : Dictionary Event EventFilter) (unmatchedDefault : Action)
    (event e : Event) (filter : EventFilter) :
    (MatchConfig.mk (filters.put event filter) unmatchedDefault).filterFor e =
      if e = event then filter else (MatchConfig.mk filters unmatchedDefault).filterFor e := by
  unfold MatchConfig.filterFor
  rw [Dictionary.lookup_put]
  by_cases he : e = event
  · rw [if_pos he, if_pos (beq_iff_eq.mpr he)]
    rfl
  · rw [if_neg he, if_neg fun h => he (beq_iff_eq.mp h)]

/-- What a predicate says about a document. -/
inductive Match where
  | absent
  | matched
  | unmatched
deriving DecidableEq, Repr

namespace Match

/-- The name of what a predicate says. -/
def name : Match → String
  | .absent => "predicate_absent"
  | .matched => "predicate_matched"
  | .unmatched => "predicate_unmatched"

/-- What a predicate, if there is one, says about a document. -/
def of (predicate : Option String) (document : Json) : Logged Failure Match :=
  match predicate with
  | none => return .absent
  | some expression => do
    return if ← Query.hasMatch expression document then .matched else .unmatched

/-- Without a predicate nothing is asked. -/
theorem result_of_none (document : Json) : (of none document).result = .ok .absent := rfl

/-- What a predicate says is whether it selects something, if that can be told. -/
theorem result_of_some (expression : String) (document : Json) :
    (of (some expression) document).result =
      (Query.hasMatch expression document).result.map fun found =>
        if found then .matched else .unmatched := by
  show (Query.hasMatch expression document >>= _).result = _
  rw [Logged.result_bind]
  cases (Query.hasMatch expression document).result <;> rfl

/-- The action to take. Without a predicate it is the default. A match takes the configured action,
and drops the delivery if there is none; a miss takes the opposite of the configured action, and
relays the delivery if there is none. -/
def resolve (outcome : Match) (configured : Option Action) (unmatchedDefault : Action) : Action :=
  match outcome with
  | .absent => unmatchedDefault
  | .matched => configured.getD .drop
  | .unmatched => if configured = some .relay then .drop else .relay

/-- An action that is not set counts as dropping. -/
theorem resolve_unset (outcome : Match) (unmatchedDefault : Action) :
    outcome.resolve none unmatchedDefault = outcome.resolve (some .drop) unmatchedDefault := by
  cases outcome <;> rfl

/-- Once the predicate has been asked, the delivery is relayed if it matches and the action is to
relay, or if neither holds. -/
theorem resolve_eq_relay_iff (found : Bool) (configured : Option Action)
    (unmatchedDefault : Action) :
    (if found then matched else unmatched).resolve configured unmatchedDefault = .relay ↔
      (configured = some .relay ↔ found = true) := by
  obtain _ | _ | _ := configured <;> cases found <;> simp [resolve]

end Match

end WebhookRelay
