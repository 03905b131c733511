import WebhookRelay.Query.Operator
import WebhookRelay.Query.Token

/-!
# Reading expressions

Expressions are read token by token. What has been read is kept as a focus, the thing read last, and
a stack of frames, each a construct that waits for its right-hand side. A token either goes on with
the focus or first completes the frames that bind at least as tightly as it does.

Joins bind from the left, by level. A subscript applies to everything joined so far. Operations bind
loosest, and from the right. Inside a filter a parenthesis may enclose a path or conditions; which
of the two shows only when it closes. A named operator that has no meaning is an error only if the
text after it could follow a path; otherwise that text is.

- `Frame`, `Focus`, `State`: what has been read.
- `State.step`: one token.
- `Path.read`: a whole expression.
- `SyntaxError.message`: what is wrong with an expression.
-/

namespace WebhookRelay.Query

/-! ## Joins -/

/-- The ways to join two paths. -/
inductive Join where
  | descendants
  | child
  | union
  | intersect
  | where
  | whereNot
deriving DecidableEq, Repr

namespace Join

/-- How tightly a join binds. -/
def level : Join → Nat
  | .descendants => 4
  | .child => 5
  | .union => 6
  | .intersect => 7
  | .where => 8
  | .whereNot => 9

/-- Join two paths. -/
def apply : Join → Path → Path → Path
  | .descendants => .descendants
  | .child => .child
  | .union => .union
  | .intersect => .intersect
  | .where => .where
  | .whereNot => .whereNot

/-- The join that a token stands for. -/
def ofToken? : Token → Option Join
  | .descend => some .descendants
  | .symbol '.' => some .child
  | .symbol '|' => some .union
  | .symbol '&' => some .intersect
  | .where => some .where
  | .whereNot => some .whereNot
  | _ => none

end Join

/-- The operation that a token stands for. -/
def Arithmetic.ofToken? : Token → Option Arithmetic
  | .symbol '+' => some .add
  | .symbol '-' => some .sub
  | .symbol '*' => some .mul
  | _ => none

/-- The literal that a token stands for. -/
def Literal.ofToken? : Token → Option Literal
  | .name s => some (.text s)
  | .number n => some (.int n)
  | .float x => some (.float x)
  | .bool b => some (.bool b)
  | _ => none

/-! ## Errors -/

/-- What is wrong with an expression. -/
inductive SyntaxError where
  | lexical (e : LexError)
  | unexpected (l : Lexeme)
  | unexpectedEnd
  | unknownOperator (name : String) (line position : Nat)
  /-- The expression joins paths by `&`, which has no meaning. -/
  | intersect
deriving DecidableEq, Repr

/-- The wording of an error. -/
def SyntaxError.message : SyntaxError → String
  | .lexical e => e.message
  | .unexpected l =>
    s!"Parse error at {l.line}:{l.column} near token {l.token.text} ({l.token.sort})"
  | .unexpectedEnd => "Parse error near the end of string!"
  | .unknownOperator name line position =>
    s!"Unknown named operator \x60{name}\x60 at {line}:{position}"
  | .intersect => "the '&' operator is not supported"

/-- Why an expression cannot be read: it has an error, a named operator in it has broken arguments,
or an integer in it has too many digits. -/
inductive ReadError where
  | syntaxError (e : SyntaxError)
  | badDefinition
  | badPattern (e : Pattern.ReadError)
  | overlongInteger
deriving DecidableEq, Repr

/-! ## What has been read -/

/-- The left-hand side of an operation. -/
inductive LeftOperand where
  | path (p : Path)
  | int (n : Int)
  | float (x : Binary64)

/-- The operand that a left-hand side is. -/
def LeftOperand.operand : LeftOperand → Operand
  | .path p => p.operand
  | .int n => .literal (.int n)
  | .float x => .literal (.float x)

/-- A construct that waits for its right-hand side. -/
inductive Frame where
  | join (j : Join) (left : Path)
  | arithmetic (left : LeftOperand) (op : Arithmetic)
  /-- A parenthesis that encloses a path. -/
  | paren
  /-- A parenthesis inside a filter, which may also enclose conditions. -/
  | group
  | filter (base : Path)
  | conjunction (earlier : List Condition)
  | sort (base : Path) (earlier : List SortKey) (descending : Bool)

/-- What has been read of a subscript. -/
inductive Subscript where
  | opened
  | names (ns : List String)
  | comma (ns : List String)
  | number (n : Int)
  | all
  /-- The first colon. -/
  | awaitStop (start : Option Int)
  | readStop (start : Option Int) (stop : Int)
  /-- The second colon. -/
  | awaitStride (start stop : Option Int)
  | readStride (start stop : Option Int) (stride : Int)

/-- The path of a subscript that may close here. -/
def Subscript.path? : Subscript → Option Path
  | .opened => none
  | .names ns => some (.fields ns)
  | .comma _ => none
  | .number n => some (.index n)
  | .all => some (.slice none none none)
  | .awaitStop start => some (.slice start none none)
  | .readStop start stop => some (.slice start (some stop) none)
  | .awaitStride start stop => some (.slice start stop none)
  | .readStride start stop stride => some (.slice start stop (some stride))

/-- The thing read last. -/
inductive Focus where
  /-- Nothing: a path has to come. -/
  | start
  | number (n : Int)
  | float (x : Binary64)
  | names (ns : List String)
  | comma (ns : List String)
  | path (p : Path)
  | conditions (cs : List Condition)
  | comparison (target : Path) (op : Comparison)
  | subscript (base : Option Path) (s : Subscript)
  /-- A named operator that has no meaning. -/
  | refused (e : ReadError)

/-- What has been read: the focus, and the frames around it from the inside out. -/
structure State where
  focus : Focus
  stack : List Frame

/-! ## Refusing tokens -/

/-- A token cannot stand where it does. -/
def unexpected {α : Type} (l : Lexeme) : Except ReadError α :=
  .error (.syntaxError (.unexpected l))

/-- Is the token one that can come directly after a path? -/
def mayFollowPath : Token → Bool
  | .where | .whereNot | .comparison _ | .direction _ | .descend => true
  | .symbol c => ['.', '[', ']', ')', '*', '+', '-', '|', '&'].contains c
  | _ => false

/-! ## Completing frames -/

/-- Complete the joins on top of the stack that bind at least as tightly as `level`. -/
def completeJoins (level : Nat) (p : Path) : List Frame → Path × List Frame
  | .join j left :: rest =>
    if level ≤ j.level then completeJoins level (j.apply left p) rest
    else (p, .join j left :: rest)
  | stack => (p, stack)

/-- Complete the joins and operations on top of the stack. -/
def completePath (p : Path) : List Frame → Path × List Frame
  | .join j left :: rest => completePath (j.apply left p) rest
  | .arithmetic left op :: rest =>
    completePath (.arithmetic op left.operand p.operand) rest
  | stack => (p, stack)

/-- A number that is not followed by an operator: it completes an operation whose left-hand side is
a path or an integer; otherwise each of its characters is a name. -/
def completeNumber (n : Int) : List Frame → Path × List Frame
  | .arithmetic (.path p) op :: rest => (.arithmetic op p.operand (.literal (.int n)), rest)
  | .arithmetic (.int m) op :: rest =>
    (.arithmetic op (.literal (.int m)) (.literal (.int n)), rest)
  | stack => (.fields ((Text.showInteger n).map String.singleton), stack)

/-- A floating-point number that is not followed by an operator: it completes an operation whose
left-hand side is a path or a floating-point number, and can stand nowhere else. -/
def completeFloat? (x : Binary64) : List Frame → Option (Path × List Frame)
  | .arithmetic (.path p) op :: rest => some (.arithmetic op p.operand (.literal (.float x)), rest)
  | .arithmetic (.float y) op :: rest =>
    some (.arithmetic op (.literal (.float y)) (.literal (.float x)), rest)
  | _ => none

/-- Conditions have been read; they join those before an `&`. -/
def State.ofConditions (cs : List Condition) : List Frame → State
  | .conjunction earlier :: rest => ⟨.conditions (earlier ++ cs), rest⟩
  | stack => ⟨.conditions cs, stack⟩

/-- Do conditions have to come here, or may they? -/
def expectsConditions : List Frame → Bool
  | .filter _ :: _ | .conjunction _ :: _ | .group :: _ => true
  | _ => false

/-! ## One token -/

/-- A token where a path has to come. -/
def stepStart (stack : List Frame) (l : Lexeme) : Except ReadError State :=
  match l.token with
  | .symbol '$' => .ok ⟨.path .root, stack⟩
  | .symbol '@' => .ok ⟨.path .this, stack⟩
  | .symbol '*' => .ok ⟨.path (.fields ["*"]), stack⟩
  | .symbol '[' => .ok ⟨.subscript none .opened, stack⟩
  | .symbol '(' => .ok ⟨.start, (if expectsConditions stack then .group else .paren) :: stack⟩
  | .name s => .ok ⟨.names [s], stack⟩
  | .number n => .ok ⟨.number n, stack⟩
  | .float x => .ok ⟨.float x, stack⟩
  | .operator name =>
    match readOperator name with
    | .ok p => .ok ⟨.path p, stack⟩
    | .error .unknown =>
      .ok ⟨.refused (.syntaxError (.unknownOperator name l.line l.position)), stack⟩
    | .error .badDefinition => .ok ⟨.refused .badDefinition, stack⟩
    | .error (.badPattern e) => .ok ⟨.refused (.badPattern e), stack⟩
    | .error .overlongInteger => .ok ⟨.refused .overlongInteger, stack⟩
  | _ => unexpected l

/-- Close a parenthesis after a path. -/
def closeParen (p : Path) (l : Lexeme) : List Frame → Except ReadError State
  | .paren :: rest | .group :: rest => .ok ⟨.path p, rest⟩
  | .conjunction earlier :: .group :: rest =>
    .ok (.ofConditions (earlier ++ [.found p]) rest)
  | _ => unexpected l

/-- Close a bracket after a path. -/
def closeBracket (p : Path) (l : Lexeme) : List Frame → Except ReadError State
  | .filter base :: rest => .ok ⟨.path (.child base (.filter [.found p])), rest⟩
  | .conjunction earlier :: .filter base :: rest =>
    .ok ⟨.path (.child base (.filter (earlier ++ [.found p]))), rest⟩
  | .sort base earlier descending :: rest =>
    .ok ⟨.path (.child base (.sorted (earlier ++ [.by p descending]))), rest⟩
  | _ => unexpected l

/-- A token after a path that may be complete. -/
def stepPath (p : Path) (stack : List Frame) (l : Lexeme) : Except ReadError State :=
  match Join.ofToken? l.token, Arithmetic.ofToken? l.token with
  | some j, _ =>
    let (p, stack) := completeJoins j.level p stack
    .ok ⟨.start, .join j p :: stack⟩
  | none, some op =>
    let (p, stack) := completeJoins 0 p stack
    .ok ⟨.start, .arithmetic (.path p) op :: stack⟩
  | none, none =>
    match l.token with
    | .symbol '[' =>
      let (p, stack) := completeJoins 0 p stack
      .ok ⟨.subscript (some p) .opened, stack⟩
    | .symbol ')' =>
      let (p, stack) := completePath p stack
      closeParen p l stack
    | .symbol ']' =>
      let (p, stack) := completePath p stack
      closeBracket p l stack
    | .direction descending =>
      match completePath p stack with
      | (p, .sort base earlier d :: rest) =>
        .ok ⟨.start, .sort base (earlier ++ [.by p d]) descending :: rest⟩
      | _ => unexpected l
    | .comparison op =>
      let (p, stack) := completePath p stack
      if expectsConditions stack then .ok ⟨.comparison p op, stack⟩ else unexpected l
    | _ => unexpected l

/-- A token after conditions. -/
def stepConditions (cs : List Condition) (stack : List Frame) (l : Lexeme) :
    Except ReadError State :=
  match l.token, stack with
  | .symbol '&', stack => .ok ⟨.start, .conjunction cs :: stack⟩
  | .symbol ')', .group :: rest => .ok (.ofConditions cs rest)
  | .symbol ']', .filter base :: rest => .ok ⟨.path (.child base (.filter cs)), rest⟩
  | _, _ => unexpected l

/-- A token inside a subscript. -/
def stepSubscript (base : Option Path) (s : Subscript) (stack : List Frame) (l : Lexeme) :
    Except ReadError State :=
  let next (s : Subscript) : Except ReadError State := .ok ⟨.subscript base s, stack⟩
  match s, l.token with
  | .opened, .name n => next (.names [n])
  | .opened, .number n => next (.number n)
  | .opened, .symbol '*' => next .all
  | .opened, .symbol ':' => next (.awaitStop none)
  | .opened, .symbol '?' =>
    match base with
    | some p => .ok ⟨.start, .filter p :: stack⟩
    | none => unexpected l
  | .opened, .direction descending =>
    match base with
    | some p => .ok ⟨.start, .sort p [] descending :: stack⟩
    | none => unexpected l
  | .names ns, .symbol ',' => next (.comma ns)
  | .comma ns, .name n => next (.names (ns ++ [n]))
  | .number n, .symbol ':' => next (.awaitStop (some n))
  | .awaitStop start, .number n => next (.readStop start n)
  | .awaitStop start, .symbol ':' => next (.awaitStride start none)
  | .readStop start n, .symbol ':' => next (.awaitStride start (some n))
  | .awaitStride start stop, .number n => next (.readStride start stop n)
  | s, .symbol ']' =>
    match s.path? with
    | none => unexpected l
    | some p =>
      .ok ⟨.path (match base with | none => p | some b => .child b p), stack⟩
  | _, _ => unexpected l

/-- Read one token. -/
def State.step (s : State) (l : Lexeme) : Except ReadError State :=
  match s.focus with
  | .start => stepStart s.stack l
  | .number n =>
    match Arithmetic.ofToken? l.token with
    | some op => .ok ⟨.start, .arithmetic (.int n) op :: s.stack⟩
    | none =>
      let (p, stack) := completeNumber n s.stack
      stepPath p stack l
  | .float x =>
    match Arithmetic.ofToken? l.token with
    | some op => .ok ⟨.start, .arithmetic (.float x) op :: s.stack⟩
    | none =>
      match completeFloat? x s.stack with
      | some (p, stack) => stepPath p stack l
      | none => unexpected l
  | .names ns =>
    if l.token = .symbol ',' then .ok ⟨.comma ns, s.stack⟩ else stepPath (.fields ns) s.stack l
  | .comma ns =>
    match l.token with
    | .name n => .ok ⟨.names (ns ++ [n]), s.stack⟩
    | _ => unexpected l
  | .path p => stepPath p s.stack l
  | .conditions cs => stepConditions cs s.stack l
  | .comparison target op =>
    match Literal.ofToken? l.token with
    | some x => .ok (.ofConditions [.compared target op x] s.stack)
    | none => unexpected l
  | .subscript base sub => stepSubscript base sub s.stack l
  | .refused e => if mayFollowPath l.token then .error e else unexpected l

/-! ## Whole expressions -/

/-- The path that has been read, if the expression may end here. -/
def State.path? (s : State) : Option Path :=
  let settled :=
    match s.focus with
    | .number n => some (completeNumber n s.stack)
    | .float x => completeFloat? x s.stack
    | .names ns => some (.fields ns, s.stack)
    | .path p => some (p, s.stack)
    | _ => none
  match settled.map fun (p, stack) => completePath p stack with
  | some (p, []) => some p
  | _ => none

/-- The path that an expression describes. -/
def Path.read (expression : String) : Except ReadError Path := do
  let lexed := tokenize expression
  let s ← lexed.lexemes.foldlM State.step ⟨.start, []⟩
  match lexed.halt, s.focus, s.path? with
  | some (.error e), _, _ => .error (.syntaxError (.lexical e))
  | some .overlongInteger, _, _ => .error .overlongInteger
  | none, .refused e, _ => .error e
  | none, _, some p => .ok p
  | none, _, none => .error (.syntaxError .unexpectedEnd)

end WebhookRelay.Query
