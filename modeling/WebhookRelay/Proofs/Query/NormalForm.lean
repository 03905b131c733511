import WebhookRelay.Proofs.Query.Addressing

/-!
# The normal form of predicates

A root that is made to go through the array around the document becomes the root with a subscript
standing on it, which is just what is left alone. So a predicate that goes through the array has a
normal form: a subscript stands on each of its roots. This module says where that form differs from
the path that was read: at the roots without a subscript, and nowhere else.

- `Path.part?`, `Path.at?`: the path on one side of an operator, and the path at a position.
- `Path.mapParts`, `Path.replace`: other paths on the sides, and another path at each of some sites.
- `Path.IsSubscriptedRoot`, `Path.IsBareRoot`: the positions of the roots with a subscript standing
  on them, and of those without.
- `address_eq_mapParts`: what is neither a root nor a subscript on one goes through the array in its
  parts.
- `address_eq_replace`: going through the array changes the bare roots only.
- `address_eq_self_iff`: a path without bare roots goes through it as it is.
- `address_normalizes`: no bare roots are left, so going through the array again changes nothing.
-/

namespace WebhookRelay.Query

/-! ## Positions -/

/-- The sides of an operator. -/
inductive Side where
  | left
  | right
deriving DecidableEq, Repr

/-- The one of two operands that stands on this side. -/
def Side.pick {α : Type} (left right : α) : Side → α
  | .left => left
  | .right => right

/-- The way from the top of a path to a path in it. -/
abbrev Position := List Side

/-- The path that an operand is, if it is one. -/
def Operand.path? : Operand → Option Path
  | .path p => some p
  | .literal _ => none

/-- The operand with another path in the place of its path. Literals stay. -/
def Operand.mapPath : (x : Operand) → ((p : Path) → x.path? = some p → Path) → Operand
  | .path p, f => .path (f p rfl)
  | .literal x, _ => .literal x

theorem Operand.sizeOf_lt_of_path? {x : Operand} {p : Path} (h : x.path? = some p) :
    sizeOf p < sizeOf x := by
  cases x with
  | path =>
    cases h
    simp +arith
  | literal => cases h

namespace Path

/-- The path on one side of an operator. A literal is no path, and the paths in conditions and sort
keys stand on no side. -/
def part? : Path → Side → Option Path
  | .child l r, side => some (side.pick l r)
  | .descendants l r, side => some (side.pick l r)
  | .where l r, side => some (side.pick l r)
  | .whereNot l r, side => some (side.pick l r)
  | .union l r, side => some (side.pick l r)
  | .intersect l r, side => some (side.pick l r)
  | .arithmetic _ l r, side => (side.pick l r).path?
  | _, _ => none

/-- The path at a position, if there is one. -/
def at? : Path → Position → Option Path
  | p, [] => some p
  | p, side :: pos => (p.part? side).bind fun x => x.at? pos

/-- The path with other paths on its sides. Its operator and its literals stay. -/
def mapParts : (p : Path) → ((side : Side) → (x : Path) → p.part? side = some x → Path) → Path
  | .child l r, f => .child (f .left l rfl) (f .right r rfl)
  | .descendants l r, f => .descendants (f .left l rfl) (f .right r rfl)
  | .where l r, f => .where (f .left l rfl) (f .right r rfl)
  | .whereNot l r, f => .whereNot (f .left l rfl) (f .right r rfl)
  | .union l r, f => .union (f .left l rfl) (f .right r rfl)
  | .intersect l r, f => .intersect (f .left l rfl) (f .right r rfl)
  | .arithmetic op l r, f => .arithmetic op (l.mapPath (f .left)) (r.mapPath (f .right))
  | p, _ => p

variable {p x : Path} {side : Side} {pos : Position}

theorem sizeOf_lt_of_part? (h : p.part? side = some x) : sizeOf x < sizeOf p := by
  cases p with
  | child l r | descendants l r | «where» l r | whereNot l r | union l r | intersect l r =>
    cases side <;> cases h <;> simp +arith [Side.pick]
  | arithmetic op l r =>
    have hoperand : sizeOf x < sizeOf (side.pick l r) := Operand.sizeOf_lt_of_path? h
    have hpick : sizeOf (side.pick l r) < sizeOf (Path.arithmetic op l r) := by
      cases side <;> simp +arith [Side.pick]
    exact Nat.lt_trans hoperand hpick
  | _ => cases h

/-- The path with another one put at each of the sites, which are positions in it. -/
def replace (p : Path) (sites : Position → Bool) (q : Path) : Path :=
  if sites [] then q
  else p.mapParts fun side x _ => x.replace (fun pos => sites (side :: pos)) q
termination_by p
decreasing_by exact sizeOf_lt_of_part? ‹_›

/-- What holds for a path whenever it holds for its parts holds for all paths. -/
@[elab_as_elim]
theorem induction_on_parts {motive : Path → Prop}
    (step : ∀ p, (∀ side x, p.part? side = some x → motive x) → motive p) (p : Path) : motive p :=
  step p fun _ x _ => induction_on_parts step x
termination_by p
decreasing_by exact sizeOf_lt_of_part? ‹_›

theorem mapParts_self (p : Path) : p.mapParts (fun _ x _ => x) = p := by
  cases p with
  | arithmetic op l r => cases l <;> cases r <;> rfl
  | _ => rfl

theorem mapParts_ne_root (hp : p ≠ .root)
    (f : (side : Side) → (x : Path) → p.part? side = some x → Path) : p.mapParts f ≠ .root := by
  cases p with
  | root => exact absurd rfl hp
  | _ => nofun

/-- The parts are exchanged one by one. -/
theorem part?_mapParts (f : Path → Path) (p : Path) (side : Side) :
    (p.mapParts fun _ x _ => f x).part? side = (p.part? side).map f := by
  cases p with
  | arithmetic op l r =>
    cases side with
    | left => cases l <;> rfl
    | right => cases r <;> rfl
  | _ => cases side <;> rfl

/-- Without sites, nothing is replaced. -/
theorem replace_of_forall_eq_false (p q : Path) {sites : Position → Bool}
    (h : ∀ pos, sites pos = false) : p.replace sites q = p := by
  induction p using induction_on_parts generalizing sites with
  | step p ih =>
    rw [replace, if_neg (Bool.eq_false_iff.mp (h []))]
    calc p.mapParts (fun side x _ => x.replace (fun pos => sites (side :: pos)) q)
        = p.mapParts (fun _ x _ => x) := by
          congr 1
          funext side x hx
          exact ih side x hx fun pos => h (side :: pos)
      _ = p := p.mapParts_self

/-! ## Roots -/

/-- Does a subscript stand on the root at a position? Then they are the two sides of a child. -/
def IsSubscriptedRoot (p : Path) (pos : Position) : Prop :=
  ∃ above r, pos = above ++ [.left] ∧ p.at? above = some (.child .root r) ∧
    isRootSubscript r = true

/-- Is there a root at a position, without a subscript standing on it? -/
def IsBareRoot (p : Path) (pos : Position) : Prop :=
  p.at? pos = some .root ∧ ¬ p.IsSubscriptedRoot pos

theorem isOnRoot_iff : p.isOnRoot = true ↔ ∃ r, p = .child .root r ∧ isRootSubscript r = true := by
  constructor
  · intro h
    unfold isOnRoot at h
    split at h
    · exact ⟨_, rfl, h⟩
    · cases h
  · rintro ⟨r, rfl, hr⟩
    exact hr

theorem isSubscriptedRoot_iff :
    p.IsSubscriptedRoot pos ↔
      pos.getLast? = some .left ∧ (p.at? pos.dropLast).any isOnRoot = true := by
  constructor
  · rintro ⟨above, r, rfl, habove, hr⟩
    rw [List.dropLast_concat, habove]
    exact ⟨List.getLast?_concat, hr⟩
  · rintro ⟨hlast, h⟩
    obtain ⟨x, hx, hon⟩ := (Option.any_eq_true _ _).mp h
    obtain ⟨r, rfl, hr⟩ := isOnRoot_iff.mp hon
    exact ⟨pos.dropLast, r, (List.dropLast_append_getLast? _ hlast).symm, hx, hr⟩

/-- Is the path a root? -/
def isRoot : Path → Bool
  | .root => true
  | _ => false

theorem isRoot_iff : p.isRoot = true ↔ p = .root := by
  cases p <;> simp [isRoot]

theorem at?_eq_root_iff : p.at? pos = some .root ↔ (p.at? pos).any isRoot = true := by
  cases p.at? pos with
  | none => exact ⟨nofun, nofun⟩
  | some x => rw [Option.some_inj, Option.any_some, isRoot_iff]

instance (p : Path) (pos : Position) : Decidable (p.IsSubscriptedRoot pos) :=
  decidable_of_iff _ isSubscriptedRoot_iff.symm

instance (p : Path) (pos : Position) : Decidable (p.IsBareRoot pos) :=
  decidable_of_iff _ (and_congr_left' at?_eq_root_iff).symm

/-- A subscript has no parts. -/
theorem part?_of_isRootSubscript {r : Path} (hr : isRootSubscript r = true) (side : Side) :
    r.part? side = none := by
  cases r with
  | filter | index | slice | sorted => rfl
  | _ => cases hr

/-- Under a subscript on the root there are no other roots. -/
theorem isSubscriptedRoot_of_isOnRoot (hp : p.isOnRoot = true) (h : p.at? pos = some .root) :
    p.IsSubscriptedRoot pos := by
  obtain ⟨r, rfl, hr⟩ := isOnRoot_iff.mp hp
  match pos with
  | [] => cases h
  | [.left] => exact ⟨[], r, rfl, rfl, hr⟩
  | .left :: _ :: _ => cases h
  | [.right] =>
    cases h
    cases hr
  | .right :: side :: _ =>
    replace h : (r.part? side).bind _ = some Path.root := h
    rw [part?_of_isRootSubscript hr side] at h
    cases h

theorem at?_cons (h : p.part? side = some x) (pos : Position) :
    p.at? (side :: pos) = x.at? pos := by
  rw [at?, h]
  rfl

theorem IsSubscriptedRoot.cons (hx : x.IsSubscriptedRoot pos) (h : p.part? side = some x) :
    p.IsSubscriptedRoot (side :: pos) := by
  obtain ⟨above, r, rfl, habove, hr⟩ := hx
  exact ⟨side :: above, r, rfl, (at?_cons h above).trans habove, hr⟩

/-- The bare roots on a side of a path are those of the path on that side. -/
theorem isBareRoot_cons (hp : p.isOnRoot = false) (h : p.part? side = some x) :
    p.IsBareRoot (side :: pos) ↔ x.IsBareRoot pos := by
  have hsubscripted : p.IsSubscriptedRoot (side :: pos) → x.IsSubscriptedRoot pos := by
    rintro ⟨above, r, hpos, habove, hr⟩
    cases above with
    | nil =>
      -- The subscript would stand on the root at the top.
      cases habove
      cases hp.symm.trans hr
    | cons first above =>
      cases hpos
      exact ⟨above, r, rfl, (at?_cons h above).symm.trans habove, hr⟩
  unfold IsBareRoot
  rw [at?_cons h]
  exact and_congr_right' (not_congr ⟨hsubscripted, (·.cons h)⟩)

end Path

/-! ## Going through the array -/

variable {p : Path} {pos : Position}

/-- What is neither a root nor a subscript on one goes through the array in its parts. -/
theorem address_eq_mapParts (hroot : p ≠ .root) (hp : p.isOnRoot = false) :
    address p = p.mapParts fun _ x _ => address x := by
  cases p with
  | root => exact absurd rfl hroot
  | child l r => exact Path.address_child hp
  | arithmetic op l r => cases l <;> cases r <;> rfl
  | _ => rfl

/-- What goes through the array becomes a subscript on a root, or does so in its parts and is no
root. -/
theorem address_cases (p : Path) :
    (address p).isOnRoot = true ∨
      p ≠ .root ∧ address p = p.mapParts fun _ x _ => address x := by
  by_cases hroot : p = .root
  · left
    rw [hroot]
    rfl
  cases hp : p.isOnRoot with
  | true =>
    left
    rwa [Path.address_of_isOnRoot hp]
  | false => exact .inr ⟨hroot, address_eq_mapParts hroot hp⟩

/-- The roots of a path that goes through the array have a subscript standing on them. -/
theorem isSubscriptedRoot_address (p : Path) (h : (address p).at? pos = some .root) :
    (address p).IsSubscriptedRoot pos := by
  induction p using Path.induction_on_parts generalizing pos with
  | step p ih =>
    obtain hon | ⟨hroot, hparts⟩ := address_cases p
    · exact Path.isSubscriptedRoot_of_isOnRoot hon h
    cases pos with
    | nil =>
      rw [hparts] at h
      exact absurd (Option.some.inj h) (Path.mapParts_ne_root hroot _)
    | cons side pos =>
      obtain ⟨y, hy, h⟩ := Option.bind_eq_some_iff.mp h
      -- What stands on this side has gone through the array as well.
      obtain ⟨x, hx, rfl⟩ : ∃ x, p.part? side = some x ∧ address x = y := by
        rwa [hparts, Path.part?_mapParts, Option.map_eq_some_iff] at hy
      exact (ih side x hx h).cons hy

/-- Going through the array puts the whole section of the root at the bare roots, and changes
nothing else. -/
theorem address_eq_replace (p : Path) :
    address p = p.replace (fun pos => p.IsBareRoot pos) (.child .root (.slice none none none)) := by
  induction p using Path.induction_on_parts with
  | step p ih =>
    by_cases hroot : p = .root
    · subst hroot
      have htop : Path.root.IsBareRoot [] := by decide
      rw [Path.replace, if_pos (decide_eq_true htop)]
      rfl
    cases hp : p.isOnRoot with
    | true =>
      have hnone : ∀ pos, ¬ p.IsBareRoot pos := fun pos h =>
        h.2 (Path.isSubscriptedRoot_of_isOnRoot hp h.1)
      rw [Path.address_of_isOnRoot hp,
        p.replace_of_forall_eq_false _ fun pos => decide_eq_false (hnone pos)]
    | false =>
      have htop : ¬ p.IsBareRoot [] := fun h => hroot (Option.some.inj h.1)
      rw [address_eq_mapParts hroot hp, Path.replace, if_neg (mt of_decide_eq_true htop)]
      congr 1
      funext side x hx
      have hbare : (fun pos => decide (p.IsBareRoot (side :: pos))) =
          fun pos => decide (x.IsBareRoot pos) :=
        funext fun pos => decide_eq_decide.mpr (Path.isBareRoot_cons hp hx)
      rw [hbare]
      exact ih side x hx

/-- A path goes through the array as it is exactly if it has no bare roots. -/
theorem address_eq_self_iff : address p = p ↔ ∀ pos, ¬ p.IsBareRoot pos := by
  constructor
  · intro h pos hbare
    rw [← h] at hbare
    exact hbare.2 (isSubscriptedRoot_address p hbare.1)
  · intro h
    rw [address_eq_replace]
    exact p.replace_of_forall_eq_false _ fun pos => decide_eq_false (h pos)

/-- **Going through the array gives a normal form**: a subscript stands on every root that the sides
of the operators lead to. The result is the path that was read, with the whole section of the root
at the positions of its bare roots and nowhere else. So going through the array again changes
nothing. -/
theorem address_normalizes (p : Path) :
    (∀ pos, (address p).at? pos = some .root → (address p).IsSubscriptedRoot pos) ∧
    address p =
      p.replace (fun pos => p.IsBareRoot pos) (.child .root (.slice none none none)) ∧
    address (address p) = address p := by
  have hnormal : ∀ pos, (address p).at? pos = some .root → (address p).IsSubscriptedRoot pos :=
    fun _ => isSubscriptedRoot_address p
  exact ⟨hnormal, address_eq_replace p, address_eq_self_iff.mpr fun pos h => h.2 (hnormal pos h.1)⟩

/-- The root on the left-hand side is bare, so it goes through the array, but only once. On the
right-hand side a subscript stands on the root already. -/
theorem address_normalizes_of_whereNot :
    ∃ p, compile "($..m) wherenot ($[0].n)" = .ok p ∧
      p.IsBareRoot [.left, .left] ∧ p.IsSubscriptedRoot [.right, .left, .left] ∧
      (address p).at? [.left, .left, .left] = some .root ∧
      (address p).IsSubscriptedRoot [.left, .left, .left] ∧
      address (address p) =
        .whereNot (.descendants (.child .root (.slice none none none)) (.fields ["m"]))
          (.child (.child .root (.index 0)) (.fields ["n"])) := by
  let p : Path := .whereNot (.descendants .root (.fields ["m"]))
    (.child (.child .root (.index 0)) (.fields ["n"]))
  have hcompile : compile "($..m) wherenot ($[0].n)" = .ok p := by rfl
  obtain ⟨hroots, -, hagain⟩ := address_normalizes p
  exact ⟨p, hcompile, by decide, by decide, rfl, hroots [.left, .left, .left] rfl, hagain⟩

end WebhookRelay.Query
