import WebhookRelay.Json

/-!
# Log records

- `Log.Level`: how grave a record is.
- `Log.Record`: one record, before it is written anywhere.
- `Logged`: a computation that leaves records and ends in a value or an error. The records stay also
  if it ends in an error.
-/

namespace WebhookRelay

namespace Log

/-- How grave a record is. -/
inductive Level where
  | debug
  | info
  | warning
  | error
  | critical
deriving DecidableEq, Repr

namespace Level

/-- The levels from the least grave on. -/
def all : List Level := [.debug, .info, .warning, .error, .critical]

/-- The name of a level. -/
def name : Level → String
  | .debug => "DEBUG"
  | .info => "INFO"
  | .warning => "WARNING"
  | .error => "ERROR"
  | .critical => "CRITICAL"

/-- The number of a level: graver is greater. -/
def severity : Level → Nat
  | .debug => 10
  | .info => 20
  | .warning => 30
  | .error => 40
  | .critical => 50

end Level

/-- A record: who says what, and further entries under their names. -/
structure Record where
  level : Level
  logger : String
  message : String
  extra : List (String × Json)
deriving Repr

end Log

/-- What a computation says on its way, and how it ends. -/
structure Logged (ε α : Type) where
  records : List Log.Record
  result : Except ε α

namespace Logged

variable {ε α β : Type}

/-- Go on with the value, if there is one, and keep all records in order. -/
def bind (x : Logged ε α) (f : α → Logged ε β) : Logged ε β :=
  match x.result with
  | .ok a => ⟨x.records ++ (f a).records, (f a).result⟩
  | .error e => ⟨x.records, .error e⟩

instance : Monad (Logged ε) where
  pure a := ⟨[], .ok a⟩
  bind := bind

/-- A result that nothing is said about. -/
def of (result : Except ε α) : Logged ε α := ⟨[], result⟩

/-- End in an error. -/
def fail (e : ε) : Logged ε α := ⟨[], .error e⟩

/-- Leave a record. -/
def say (level : Log.Level) (logger message : String) (extra : List (String × Json)) :
    Logged ε Unit :=
  ⟨[⟨level, logger, message, extra⟩], .ok ()⟩

/-- The same computation with its error put another way. -/
def mapError {ε' : Type} (f : ε → ε') (x : Logged ε α) : Logged ε' α :=
  ⟨x.records, x.result.mapError f⟩

/-! ## How computations end -/

@[simp] theorem result_pure (a : α) : (pure a : Logged ε α).result = .ok a := rfl

@[simp] theorem result_of (x : Except ε α) : (of x).result = x := rfl

@[simp] theorem result_say (level : Log.Level) (logger message : String)
    (extra : List (String × Json)) :
    (say level logger message extra : Logged ε Unit).result = .ok () := rfl

@[simp] theorem result_mapError {ε' : Type} (f : ε → ε') (x : Logged ε α) :
    (x.mapError f).result = x.result.mapError f := rfl

/-- A computation ends as what it goes on with ends, unless it ends before. -/
theorem result_bind (x : Logged ε α) (f : α → Logged ε β) :
    (x >>= f).result = x.result >>= fun a => (f a).result := by
  show (bind x f).result = _
  unfold bind
  cases x.result <;> rfl

/-- A computation whose first part has a value ends as the rest. -/
theorem result_bind_of_ok {x : Logged ε α} {a : α} (h : x.result = .ok a) (f : α → Logged ε β) :
    (x >>= f).result = (f a).result := by
  rw [result_bind, h]
  rfl

/-- A computation whose first part ends in an error ends in it. -/
theorem result_bind_of_error {x : Logged ε α} {e : ε} (h : x.result = .error e)
    (f : α → Logged ε β) : (x >>= f).result = .error e := by
  rw [result_bind, h]
  rfl

/-- Nothing happens after an error. -/
theorem bind_of_error {x : Logged ε α} {e : ε} (h : x.result = .error e) (f : α → Logged ε β) :
    x >>= f = ⟨x.records, .error e⟩ := by
  show bind x f = _
  rw [bind, h]

/-- Nothing is said after an error. -/
theorem of_error_bind (e : ε) (f : α → Logged ε β) : of (.error e) >>= f = ⟨[], .error e⟩ := rfl

/-- A value that nothing is said about is handed on. -/
theorem of_ok_bind (a : α) (f : α → Logged ε β) : of (.ok a) >>= f = f a := rfl

/-- A computation has a value if all its parts have one. -/
theorem result_bind_eq_ok_iff {x : Logged ε α} {f : α → Logged ε β} {b : β} :
    (x >>= f).result = .ok b ↔ ∃ a, x.result = .ok a ∧ (f a).result = .ok b := by
  rw [result_bind]
  cases x.result with
  | error e => exact ⟨nofun, fun ⟨_, h, _⟩ => nomatch h⟩
  | ok a => exact ⟨fun h => ⟨a, rfl, h⟩, fun ⟨_, h, h'⟩ => Except.ok.inj h ▸ h'⟩

/-- A computation ends in an error if its first part does, or if the rest does after a value. -/
theorem result_bind_eq_error_iff {x : Logged ε α} {f : α → Logged ε β} {e : ε} :
    (x >>= f).result = .error e ↔
      x.result = .error e ∨ ∃ a, x.result = .ok a ∧ (f a).result = .error e := by
  rw [result_bind]
  cases x.result with
  | error e' =>
    constructor
    · exact fun h => .inl (congrArg Except.error (Except.error.inj h))
    · rintro (⟨⟨⟩⟩ | ⟨_, ⟨⟩, _⟩)
      rfl
  | ok a =>
    constructor
    · exact fun h => .inr ⟨a, rfl, h⟩
    · rintro (h | ⟨_, ⟨⟩, h⟩)
      · cases h
      · exact h

/-- What a computation says is said by its first part, or by the rest after a value. -/
theorem mem_records_bind_iff {x : Logged ε α} {f : α → Logged ε β} {record : Log.Record} :
    record ∈ (x >>= f).records ↔
      record ∈ x.records ∨ ∃ a, x.result = .ok a ∧ record ∈ (f a).records := by
  show record ∈ (bind x f).records ↔ _
  unfold bind
  cases x.result with
  | error e => exact ⟨.inl, fun h => h.resolve_right (by rintro ⟨_, ⟨⟩, _⟩)⟩
  | ok a =>
    rw [List.mem_append]
    exact or_congr_right ⟨fun h => ⟨a, rfl, h⟩, fun ⟨_, ha, h⟩ => Except.ok.inj ha ▸ h⟩

end Logged

end WebhookRelay
