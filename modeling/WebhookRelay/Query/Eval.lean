import WebhookRelay.Json.Display
import WebhookRelay.Pattern.Replacement
import WebhookRelay.Query.Arithmetic
import WebhookRelay.Query.Sorting
import WebhookRelay.Text.Split

/-!
# Evaluating paths

- `Path.select`: what a path gives from a datum.
- `Comparison.holds`: does a value compare with a literal?
- `descend`: a function at a place and at every place below it, depth first.
-/

namespace WebhookRelay.Query

/-! ## Comparisons -/

namespace Comparison

/-- Does a comparison hold for values in this order? A pattern comparison never does. -/
def holdsFor (op : Comparison) (o : Option Ordering) : Bool :=
  match op with
  | .matches => false
  | .equal | .assign => o == some .eq
  | .notEqual => o != some .eq
  | .less => o == some .lt
  | .lessEqual => o == some .lt || o == some .eq
  | .greater => o == some .gt
  | .greaterEqual => o == some .gt || o == some .eq

/-- The integer that a value is read as beside an integer literal: texts are read, and fractions are
cut off. A text that is no integer has none, nor has the non-number. -/
def integer? : Json → Except EvalError (Option Int)
  | .bool b => .ok (some (if b then 1 else 0))
  | .int n => .ok (some n)
  | .float x =>
    match x.value with
    | .nan => .ok none
    | .infinite _ => .error .overflow
    | .finite .. => .ok (x.toDyadic?.map Dyadic.truncate)
  | .string s => .ok (Text.readInteger? s.toList)
  | _ => .error .mismatch

/-- Does a value compare with an integer? -/
def holdsInt (op : Comparison) (v : Json) (n : Int) : Except EvalError Bool := do
  match ← integer? v with
  | some m => return op.holdsFor (some (compare m n))
  | none => return false

/-- Does a value compare with a floating-point number? What is no number differs from it and has no
order. -/
def holdsFloat (op : Comparison) (v : Json) (x : Binary64) : Except EvalError Bool :=
  match op, v, v.number? with
  | .matches, .string _, _ => .error .mismatch
  | .matches, _, _ => .ok false
  | op, _, some m => .ok (op.holdsFor (m.compare? (.float x)))
  | .equal, _, none | .assign, _, none => .ok false
  | .notEqual, _, none => .ok true
  | _, _, none => .error .mismatch

/-- The error that a broken pattern is. -/
def errorOfPattern : Pattern.ReadError → EvalError
  | .malformed => .badPattern
  | .countTooLarge => .overflow
  | .conflictingFlags => .mismatch

/-- Does a value compare with a text? What is no text differs from it and has no order. -/
def holdsText (op : Comparison) (v : Json) (t : String) : Except EvalError Bool :=
  match op, v with
  | .matches, .string s =>
    match Pattern.read t with
    | .ok p => .ok (p.fits s)
    | .error e => .error (errorOfPattern e)
  | .matches, _ => .ok false
  | op, .string s => .ok (op.holdsFor (some (compare s t)))
  | .equal, _ | .assign, _ => .ok false
  | .notEqual, _ => .ok true
  | _, _ => .error .mismatch

/-- Does a value compare with a literal? -/
def holds (op : Comparison) (v : Json) : Literal → Except EvalError Bool
  | .int n => op.holdsInt v n
  | .bool b => op.holdsInt v (if b then 1 else 0)
  | .float x => op.holdsFloat v x
  | .text t => op.holdsText v t

end Comparison

/-- The value of a literal. -/
def Literal.value : Literal → Json
  | .int n => .int n
  | .float x => .float x
  | .bool b => .bool b
  | .text s => .string s

/-! ## Single steps -/

/-- The members of an object with the given names; the name `*` stands for all of them. -/
def fieldsOf (names : List String) : Json → List (Step × Json)
  | .object fields =>
    let names := if names.contains "*" then fields.map Prod.fst else names
    names.filterMap fun name => (fields.lookup name).map (.field name, ·)
  | _ => []

/-- One item. Nothing is selected from a value that counts as nothing or is too short; a number from
the end has to exist. -/
def itemOf (n : Int) (v : Json) : Except EvalError (List (Step × Json)) :=
  let pick {α : Type} (xs : List α) (f : α → Json) : Except EvalError (List (Step × Json)) :=
    if n ≥ xs.length then .ok []
    else
      let i := if n < 0 then n + xs.length else n
      match (if i < 0 then none else xs[i.toNat]?) with
      | some x => .ok [(.item n, f x)]
      | none => .error .indexOutOfRange
  if v.isFalsy then .ok []
  else
    match v with
    | .string s => pick s.toList fun c => .string (String.singleton c)
    | .array items => pick items id
    | .object fields => if n ≥ fields.length then .ok [] else .error .mismatch
    | _ => .error .mismatch

/-- The numbers `first`, `first + stride`, … as many as asked for. -/
def progression (first stride : Int) : (count : Nat) → List Int
  | 0 => []
  | count + 1 => first :: progression (first + stride) stride count

/-- A bound of a section as a number from `low` to `high`; a negative one counts from the end. -/
def sectionBound (length low high : Int) (bound : Int) : Int :=
  let b := if bound < 0 then bound + length else bound
  max low (min high b)

/-- The indices of a section of an array with so many items. -/
def sectionIndices (length : Nat) (start stop stride : Option Int) : Except EvalError (List Nat) :=
  let stride := stride.getD 1
  let n : Int := length
  if stride = 0 then .error .mismatch
  else if stride > 0 then
    let first := (start.map (sectionBound n 0 n)).getD 0
    let last := (stop.map (sectionBound n 0 n)).getD n
    .ok ((progression first stride ((last - first + stride - 1) / stride).toNat).map Int.toNat)
  else
    let first := (start.map (sectionBound n (-1) (n - 1))).getD (n - 1)
    let last := (stop.map (sectionBound n (-1) (n - 1))).getD (-1)
    .ok ((progression first stride ((first - last - stride - 1) / -stride).toNat).map Int.toNat)

/-- The array that a section is taken of: a value that is no array is the only item of one. -/
def asArray : Json → Except EvalError (List Json)
  | .array items => .ok items
  | .float _ => .error .mismatch
  | v => .ok [v]

/-- The items of a section. -/
def sectionOf (start stop stride : Option Int) (items : List Json) :
    Except EvalError (List (Step × Json)) := do
  let indices ← sectionIndices items.length start stop stride
  return indices.filterMap fun (i : Nat) => items[i]?.map (.item i, ·)

/-- The length of a value that has one. -/
def lengthOf (v : Json) : List Json :=
  match v.length? with
  | some n => [.int n]
  | none => []

/-- The keys of an object. -/
def keysOf : Json → List Json
  | .object fields => fields.map fun (k, _) => .string k
  | _ => []

/-- The parts of a text. -/
def partsOf (separator : String) (segment : Option String) (limit : Int) : Json → List Json
  | .string s =>
    if limit < -0x8000000000000000 || 0x8000000000000000 ≤ limit then []
    else
      let parts := (Text.split separator (if limit < 0 then none else some limit.toNat) s).map
        Json.string
      match segment with
      | none => [.array parts]
      | some digits =>
        match Text.readInteger? digits.toList with
        | none => []
        | some n =>
          let i := if n < 0 then n + parts.length else n
          (if i < 0 then none else parts[i.toNat]?).toList
  | _ => []

/-- A text with whatever a pattern fits replaced; nothing if that leaves it as it is. -/
def substitutedIn (pattern : Pattern) (replacement : String) (v : Json) :
    Except EvalError (List Json) :=
  match Pattern.Replacement.read pattern replacement, v with
  | .error .malformed, _ => .error .badPattern
  | .error .unknownName, _ => .error .unknownGroup
  | .ok r, .string s =>
    let t := pattern.replaceAll r s
    .ok (if t = s then [] else [.string t])
  | .ok _, _ => .error .mismatch

/-- A value in its display form, unless an integer in it has too many digits. -/
def displayOf (v : Json) : Except EvalError String :=
  if v.hasOverlong then .error .mismatch else .ok v.display

/-- The order of values that have one. -/
def lessValue (x y : Json) : Except EvalError Bool :=
  match Json.less? x y with
  | some b => .ok b
  | none => .error .mismatch

variable {m : Type → Type} {ν : Type} [Monad m] [Memory m ν]

/-- Values that were reached by a step, with nothing above them. -/
def aloneAll (step : Step) : List Json → m (Selection ν)
  | vs => return .data (← vs.mapM (Datum.alone step))

/-- The items of a section below a datum. -/
def selectSection (start stop stride : Option Int) (d : Datum ν) : m (List (Datum ν)) := do
  let v ← d.value
  if v.isFalsy then return []
  else
    let items ← Memory.pure (asArray v)
    let found ← Memory.pure (sectionOf start stop stride items)
    match v with
    | .array _ => d.below found
    | _ => Datum.below ⟨← Memory.store (.array items), d.step, d.above⟩ found

/-! ## Lists of data -/

/-- The data of several selections, one after another. -/
def gather (f : Datum ν → m (Selection ν)) : List (Datum ν) → m (List (Datum ν))
  | [] => return []
  | d :: ds => do
    let first ← (← f d).list
    let rest ← gather f ds
    return first ++ rest

/-- The things for which a test holds. -/
def keep {α : Type} (f : α → m Bool) : List α → m (List α)
  | [] => return []
  | x :: xs => do
    let first := if ← f x then [x] else []
    let rest ← keep f xs
    return first ++ rest

/-- The pairs that an operation applies to. A value that is written out goes with every datum of the
other side; two selections are paired only if they have the same number of data. -/
def pairUp : Json ⊕ Selection ν → Json ⊕ Selection ν → m (List (Argument ν × Argument ν))
  | .inl x, .inl y => return [(.inl x, .inl y)]
  | .inr left, .inl y => do return (← left.list).map (.inr ·, .inl y)
  | .inl x, .inr right => do return (← right.list).map (.inl x, .inr ·)
  | .inr left, .inr right => do
    if left.isEmpty || right.isEmpty then return []
    else
      let ls ← left.list
      let rs ← right.list
      return if ls.length = rs.length then (ls.map .inr).zip (rs.map .inr) else []

/-- The values that a sort key compares, if it selects exactly one on either side. -/
def singleValues (l r : Selection ν) : m (Option (Json × Json)) := do
  if l.isEmpty || r.isEmpty then return none
  else
    match ← l.list with
    | [a] =>
      match ← r.list with
      | [b] => return some (← a.read, ← b.read)
      | _ => return none
    | _ => return none

/-! ## Places below -/

mutual

/-- What a function selects at a place and at all places below it, each before those below it. The
place is given by its cell, its step and the cells above it, with the value that it has at first. If
the function makes an array of an object, the places below it are items. -/
def descend (f : Datum ν → m (Selection ν)) (cell : ν) (step : Step) (above : List (ν × Step)) :
    Json → m (List (Datum ν))
  | .array items => do
    let d : Datum ν := ⟨cell, step, above⟩
    let here ← f d
    let _ ← d.read
    let below ← descendItems f ((cell, step) :: above) 0 items
    return (← here.list) ++ below
  | .object fields => do
    let d : Datum ν := ⟨cell, step, above⟩
    let here ← f d
    let below ←
      match ← d.read with
      | .object _ => descendFields f d fields
      | _ => descendValues f ((cell, step) :: above) 0 fields
    return (← here.list) ++ below
  | _ => do
    let d : Datum ν := ⟨cell, step, above⟩
    let here ← f d
    let _ ← d.read
    here.list

/-- What a function selects at the items of an array, from number `i` on, and below them. -/
def descendItems (f : Datum ν → m (Selection ν)) (above : List (ν × Step)) (i : Nat) :
    List Json → m (List (Datum ν))
  | [] => return []
  | v :: vs => do
    let first ← descend f (← Memory.store v) (.item i) above v
    let rest ← descendItems f above (i + 1) vs
    return first ++ rest

/-- What a function selects at the members of an object and below them. The object must not become
an array meanwhile. -/
def descendFields (f : Datum ν → m (Selection ν)) (d : Datum ν) :
    List (String × Json) → m (List (Datum ν))
  | [] => return []
  | (k, v) :: rest => do
    match ← d.value with
    | .object _ => do
      let first ← descend f (← Memory.store v) (.field k) ((d.cell, d.step) :: d.above) v
      let rest ← descendFields f d rest
      return first ++ rest
    | _ => Memory.pure (.error .mismatch)

/-- What a function selects at the values of an object that has become an array, from number `i` on,
and below them. -/
def descendValues (f : Datum ν → m (Selection ν)) (above : List (ν × Step)) (i : Nat) :
    List (String × Json) → m (List (Datum ν))
  | [] => return []
  | (_, v) :: rest => do
    let first ← descend f (← Memory.store v) (.item i) above v
    let rest ← descendValues f above (i + 1) rest
    return first ++ rest

end

/-! ## Paths -/

mutual

/-- What a path gives from a datum. -/
def Path.select {m : Type → Type} {ν : Type} [Monad m] [Memory m ν] :
    Path → Datum ν → m (Selection ν)
  | .root, d => do return .data [← d.root]
  | .this, d => do return .data [← d.settle]
  | .parent, d => do return .data [← d.parent]
  | .len, d => do aloneAll .len (lengthOf (← d.value))
  | .keys, d => do aloneAll .keys (keysOf (← d.value))
  | .step, d => do
    let d ← d.settle
    return .data (← d.below [(.path, .string d.step.text)])
  | .str, d => do
    return .data [← Datum.fresh (.string (← Memory.pure (displayOf (← d.value))))]
  | .fields names, d => do
    let d ← d.settle
    return .data (← d.below (fieldsOf names (← d.value)))
  | .index n, d => do
    let d ← d.settle
    return .data (← d.below (← Memory.pure (itemOf n (← d.value))))
  | .slice start stop stride, d => do
    return .data (← selectSection start stop stride (← d.settle))
  | .child l r, d => do
    let ds ← (← l.select d).list
    return .data (← gather r.select ds)
  | .descendants l r, d => do
    let starts : List (Datum ν) := match ← l.select d with | .data ds => ds | .itself d => [d]
    let below (d : Datum ν) : m (Selection ν) := do
      return .data (← descend r.select d.cell d.step d.above (← d.value))
    return .data (← gather below starts)
  | .where l r, d => do
    let ds ← (← l.select d).list
    return .data (← keep (fun d => do return !(← r.select d).isEmpty) ds)
  | .whereNot l r, d => do
    let ds ← (← l.select d).list
    return .data (← keep (fun d => do return (← r.select d).isEmpty) ds)
  | .union l r, d => do
    let left ← l.select d
    let right ← r.select d
    return .data ((← left.list) ++ (← right.list))
  | .intersect _ _, _ => Memory.pure (.error .unsupported)
  | .filter conditions, d => do
    let d ← d.settle
    let chosen (d : Datum ν) (items : List Json) : m (Selection ν) := do
      let kept ← keep (fun (v, _) => meetsAll conditions v) items.zipIdx
      return .data (← d.below (kept.map fun (v, i) => (.item i, v)))
    match ← d.value with
    | .array items => chosen d items
    | .object fields =>
      let items := fields.map Prod.snd
      chosen ⟨← Memory.replace d.cell (.array items), d.step, d.above⟩ items
    | _ => return .data []
  | .sorted keys, d => do
    match d.step, ← d.value with
    | .document, _ | .absent, _ => Memory.pure (.error .mismatch)
    | _, .object fields =>
      if keys.isEmpty then
        let sorted ← Memory.pure (Sorting.sort lessValue (fields.map fun (k, _) => Json.string k))
        return .data [← Datum.fresh (.array sorted)]
      else return .itself d
    | _, .array items =>
      let lessByAll (x y : Json) : Except EvalError Bool :=
        Memory.run (keys.any fun key => key.path.sharesPlaces) do
          lessByKeys keys (← Datum.fresh x) (← Datum.fresh y)
      let less := if keys.isEmpty then lessValue else lessByAll
      let sorted ← Memory.pure (Sorting.sort less items)
      return .data [← Datum.fresh (.array sorted)]
    | _, _ => return .itself d
  | .arithmetic op l r, d => do
    let left ← l.select d
    let right ← r.select d
    let results ← op.applyAll [] (← pairUp left right)
    aloneAll .this results
  | .split separator segment limit, d => do
    aloneAll .this (partsOf separator segment limit (← d.value))
  | .substitute pattern replacement, d => do
    aloneAll .this (← Memory.pure (substitutedIn pattern replacement (← d.value)))
termination_by structural p => p

/-- What an operand gives from a datum: a value that is written out, or a selection. -/
def Operand.select {m : Type → Type} {ν : Type} [Monad m] [Memory m ν] :
    Operand → Datum ν → m (Json ⊕ Selection ν)
  | .path p, d => do return .inr (← p.select d)
  | .literal x, _ => return .inl x.value
termination_by structural operand => operand

/-- Does a condition hold at a datum? -/
def Condition.meets {m : Type → Type} {ν : Type} [Monad m] [Memory m ν] :
    Condition → Datum ν → m Bool
  | .found target, d => do return !(← target.select d).isEmpty
  | .compared target op literal, d => do
    let found ← target.select d
    if found.isEmpty then return false
    else
      let compares (e : Datum ν) : m Bool := do Memory.pure (op.holds (← e.read) literal)
      return !(← keep compares (← found.list)).isEmpty
termination_by structural condition => condition

/-- Do all conditions hold for a value? Each of them is evaluated, with cells of its own. -/
def meetsAll {m : Type → Type} {ν : Type} [Monad m] [Memory m ν] : List Condition → Json → m Bool
  | [], _ => return true
  | c :: cs, v => do
    let first ← Memory.pure (Memory.run c.target.sharesPlaces do c.meets (← Datum.fresh v))
    let rest ← meetsAll cs v
    return first && rest
termination_by structural conditions => conditions

/-- Does one item come before another by sort keys? The first key that tells them apart decides. -/
def lessByKeys {m : Type → Type} {ν : Type} [Monad m] [Memory m ν] :
    List SortKey → Datum ν → Datum ν → m Bool
  | [], _, _ => return false
  | .by path descending :: keys, x, y => do
    let l ← path.select x
    let r ← path.select y
    match ← singleValues l r with
    | none => lessByKeys keys x y
    | some (a, b) =>
      if Json.same a b then lessByKeys keys x y
      else
        let less ← Memory.pure (lessValue a b)
        return less != descending
termination_by structural keys => keys

end

/-- A child goes on from the data of what comes before it. -/
theorem Path.select_child (l r : Path) (d : Datum ν) :
    ((Path.child l r).select d : m (Selection ν)) = do
      let ds ← (← l.select d).list
      return .data (← gather r.select ds) := by
  rw [Path.select]

end WebhookRelay.Query
