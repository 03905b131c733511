import WebhookRelay.Query.Datum

/-!
# Sorting by a test that may fail

Items are sorted by a test whether one is less than another. The result is stable. Which items are
tested against each other is fixed, since the test may fail, and since it need not be an order: the
run at the start is found first, and then the other items are inserted one by one, each after those
that are not greater, by halving.

- `Sorting.sort`: the sorted items.
-/

namespace WebhookRelay.Query.Sorting

variable {α ε : Type} (less : α → α → Except ε Bool)

/-- The items at the start of a list that go on with a run after `last`: each is less than the one
before it, or, in a rising run, is not. -/
def takeRun (falling : Bool) (last : α) : List α → Except ε (List α × List α)
  | [] => .ok ([], [])
  | x :: rest => do
    if (← less x last) = falling then
      let (run, rest) ← takeRun falling x rest
      return (x :: run, rest)
    else return ([], x :: rest)

/-- The run at the start of a list in rising order, and the other items. -/
def firstRun : List α → Except ε (List α × List α)
  | [] => .ok ([], [])
  | [x] => .ok ([x], [])
  | x :: y :: rest => do
    let falling ← less y x
    let (run, rest) ← takeRun less falling y rest
    return (if falling then (x :: y :: run).reverse else x :: y :: run, rest)

/-- Insert an item into sorted ones, after those that are not greater. -/
def insert (x : α) (xs : List α) : Except ε (List α) :=
  match _found : xs[xs.length / 2]? with
  | none => .ok [x]
  | some y => do
    let lower := xs.take (xs.length / 2)
    let upper := xs.drop (xs.length / 2 + 1)
    if ← less x y then return (← insert x lower) ++ y :: upper
    else return lower ++ y :: (← insert x upper)
termination_by xs.length
decreasing_by
  all_goals
    have := (List.getElem?_eq_some_iff.mp _found).1
    grind

/-- Insert items one by one. -/
def insertAll (sorted : List α) : List α → Except ε (List α)
  | [] => .ok sorted
  | x :: rest => do insertAll (← insert less x sorted) rest

/-- The sorted items. -/
def sort (xs : List α) : Except ε (List α) := do
  let (run, rest) ← firstRun less xs
  insertAll less run rest

end WebhookRelay.Query.Sorting
