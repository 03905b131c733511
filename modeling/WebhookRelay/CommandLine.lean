import WebhookRelay.Settings

/-!
# The command line

The command line sets where the relay listens and what it logs. A long flag may be shortened as long
as it stays clear which one is meant; its value follows it, or is attached after an equals sign. Of
repeated flags the last one counts.

- `CommandLine.Flag`: the flags.
- `CommandLine.Argument`, `CommandLine.classify`: what each argument is.
- `CommandLine.Launch`: what a command line asks for.
- `CommandLine.Exit`: why nothing is launched.
- `CommandLine.read`: read a command line.
-/

namespace WebhookRelay.CommandLine

/-! ## Flags -/

/-- The flags. -/
inductive Flag where
  | help
  | host
  | port
  | logLevel
deriving DecidableEq, Repr

/-- The flags as they are spelled. -/
def spellings : List (String × Flag) :=
  [("-h", .help), ("--help", .help), ("--host", .host), ("--port", .port),
    ("--log-level", .logLevel)]

/-- A flag as messages call it. -/
def Flag.title (flag : Flag) : String :=
  "/".intercalate ((spellings.filter fun s => s.2 == flag).map Prod.fst)

/-! ## Problems -/

/-- What is wrong with a command line. -/
inductive Problem where
  /-- A shortened flag can mean several ones. -/
  | ambiguous (text : String) (candidates : List String)
  | valueMissing (flag : Flag)
  /-- A value is attached to a flag that has none. -/
  | valueIgnored (flag : Flag) (value : String)
  | notInteger (flag : Flag) (value : String)
  | unrecognized (texts : List String)
deriving DecidableEq, Repr

/-- A problem with one flag. -/
def flagMessage (flag : Flag) (message : String) : String :=
  "argument " ++ flag.title ++ ": " ++ message

/-- The message for a problem. -/
def Problem.message : Problem → String
  | ambiguous text candidates =>
    "ambiguous option: " ++ text ++ " could match " ++ ", ".intercalate candidates
  | valueMissing flag => flagMessage flag "expected one argument"
  | valueIgnored flag value => flagMessage flag ("ignored explicit argument " ++ Text.quoted value)
  | notInteger flag value => flagMessage flag ("invalid int value: " ++ Text.quoted value)
  | unrecognized texts => "unrecognized arguments: " ++ " ".intercalate texts

/-! ## Arguments one by one -/

/-- What is attached to a flag. -/
inductive Attached where
  | nothing
  /-- A value after an equals sign. -/
  | value (text : String)
  /-- More letters after a flag of one letter. -/
  | letters (text : String)
deriving DecidableEq, Repr

/-- What an argument is. -/
inductive Role where
  | value
  | flag (flag : Flag) (attached : Attached)
  /-- Neither a value nor a flag that is known. -/
  | stray
deriving DecidableEq, Repr

/-- An argument and what it is. -/
structure Argument where
  text : String
  role : Role
deriving DecidableEq, Repr

/-- After this argument there are no flags. -/
def separator : String := "--"

/-- What stands before the first equals sign, and what is attached by it. -/
def cutAtEquals (cs : List Char) : List Char × Attached :=
  match cs.dropWhile (· != '=') with
  | [] => (cs, .nothing)
  | _ :: value => (cs.takeWhile (· != '='), .value (String.ofList value))

/-- The flags that an argument may mean which is not spelled out: after two dashes, those that begin
like it; otherwise those of one letter that it begins with. -/
def candidates : List Char → List (String × Role)
  | '-' :: '-' :: cs =>
    let (start, attached) := cutAtEquals ('-' :: '-' :: cs)
    (spellings.filter fun s => start.isPrefixOf s.1.toList).map
      fun s => (s.1, .flag s.2 attached)
  | cs =>
    (spellings.filter fun s => s.1.toList = cs.take 2).map
      fun s => (s.1, .flag s.2 (.letters (String.ofList (cs.drop 2))))

/-- Are these decimal digits, perhaps with a point among them or before them? -/
def isUnsignedNumber (cs : List Char) : Bool :=
  match cs.dropWhile Text.isDecimal with
  | [] => !cs.isEmpty
  | '.' :: fraction => !fraction.isEmpty && fraction.all Text.isDecimal
  | _ => false

/-- Is this a negative number? One line end may follow it. -/
def isNegativeNumber : List Char → Bool
  | '-' :: cs => isUnsignedNumber (if cs.getLast? = some '\n' then cs.dropLast else cs)
  | _ => false

/-- What an argument is that begins with a dash, has more after it, and is no flag on its own. -/
def roleOfDashed (text : String) : Except Problem Role :=
  let cs := text.toList
  let (start, attached) := cutAtEquals cs
  match attached, spellings.lookup (String.ofList start) with
  | .value v, some flag => .ok (.flag flag (.value v))
  | _, _ =>
    match candidates cs with
    | [] => .ok (if isNegativeNumber cs || cs.contains ' ' then .value else .stray)
    | [(_, role)] => .ok role
    | several => .error (.ambiguous text (several.map Prod.fst))

/-- What an argument is. -/
def roleOf (text : String) : Except Problem Role :=
  match spellings.lookup text with
  | some flag => .ok (.flag flag .nothing)
  | none =>
    match text.toList with
    | '-' :: _ :: _ => roleOfDashed text
    | _ => .ok .value

/-- What each argument is. After a separator all are values. -/
def classify : List String → Except Problem (List Argument)
  | [] => .ok []
  | text :: rest =>
    if text = separator then .ok (⟨text, .stray⟩ :: rest.map (⟨·, .value⟩))
    else do
      let role ← roleOf text
      let others ← classify rest
      return ⟨text, role⟩ :: others

/-! ## The whole line -/

/-- What a command line asks for. -/
structure Launch where
  host : String
  port : Int
  logLevel : String
deriving DecidableEq, Repr

/-- What is launched when the command line says nothing. -/
def Launch.ofSettings (s : Settings) : Launch := ⟨s.host, s.port, s.logLevel⟩

/-- Why nothing is launched. -/
inductive Exit where
  | help
  | problem (p : Problem)
deriving DecidableEq, Repr

/-- What the help flag does. No value can be attached to it. Of attached letters, more of the same
mean the same, and others do not count any more. -/
def helpWith (attached : Attached) : Exit :=
  let ignored (value : String) : Exit := .problem (.valueIgnored .help value)
  match attached with
  | .nothing => .help
  | .value v => ignored v
  | .letters cs =>
    match cs.toList.dropWhile (· = 'h') with
    | '=' :: value => ignored (String.ofList value)
    | '-' :: rest => ignored (String.ofList ('-' :: rest))
    | _ => .help

/-- Give a flag a value. -/
def Launch.set (l : Launch) (value : String) : Flag → Except Exit Launch
  | .help => .error .help
  | .host => .ok { l with host := value }
  | .logLevel => .ok { l with logLevel := value }
  | .port =>
    match Text.readInteger? value.toList with
    | some n => .ok { l with port := n }
    | none => .error (.problem (.notInteger .port value))

/-- Follow the arguments from left to right. The second part of the result are the arguments that
have no use. -/
def follow (l : Launch) : List Argument → Except Exit (Launch × List String)
  | [] => .ok (l, [])
  | ⟨_, .flag .help attached⟩ :: _ => .error (helpWith attached)
  | ⟨_, .flag flag (.value v)⟩ :: rest => do follow (← l.set v flag) rest
  | ⟨_, .flag flag (.letters v)⟩ :: rest => do follow (← l.set v flag) rest
  | ⟨_, .flag flag .nothing⟩ :: ⟨v, .value⟩ :: rest => do follow (← l.set v flag) rest
  | ⟨_, .flag flag .nothing⟩ :: _ => .error (.problem (.valueMissing flag))
  | ⟨text, _⟩ :: rest => do
    let (l, unused) ← follow l rest
    return (l, text :: unused)

/-- Read a command line onto what is launched without one. -/
def read (l : Launch) (arguments : List String) : Except Exit Launch := do
  let classified ← (classify arguments).mapError Exit.problem
  match ← follow l classified with
  | (l, []) => return l
  | (_, unused) => throw (.problem (.unrecognized unused))

end WebhookRelay.CommandLine
