import WebhookRelay.Proofs.Query.Agreement

/-!
# Going through the array

A predicate is evaluated on the array around a document, and every root in it is made to go through
that array. This module says for which paths that changes nothing: those that begin at the root and
only go down from there.

- `Path.Relative`, `Path.Rooted`: the paths that go down, from anywhere and from the root.
- `Path.Relative.stepsAgree`: a path that goes down, made to go through the array, gives from a datum
  under the array what the path itself gives from the same datum without it.
- `Path.Rooted.find_agree`: so does a rooted path, from any two data under the two tops.
- `evaluate_address`: so a rooted path selects the same values in both ways.

A root inside the right-hand side of a step goes back to the top. There the two evaluations may
differ in what they find: a section of a value that is no array, and a choice among the members of
an object, put a new array in the place of the value they start from, which may be the top of the
one document and is never that of the other. So paths with such a root must have no such steps.
-/

namespace WebhookRelay.Query

/-! ## Paths that go down -/

/-- The paths that go down from a place, or start again at the root. Conditions may be anything. -/
inductive Path.Relative : Path → Prop where
  | fields (names : List String) : Relative (.fields names)
  | index (n : Int) : Relative (.index n)
  | slice (start stop stride : Option Int) : Relative (.slice start stop stride)
  | filter (conditions : List Condition) : Relative (.filter conditions)
  | root : Relative .root
  | child {l r : Path} (hl : Relative l) (hr : Relative r) : Relative (.child l r)
  | descendants {l r : Path} (hl : Relative l) (hr : Relative r) : Relative (.descendants l r)
  | where {l r : Path} (hl : Relative l) (hr : Relative r) : Relative (.where l r)
  | whereNot {l r : Path} (hl : Relative l) (hr : Relative r) : Relative (.whereNot l r)
  | union {l r : Path} (hl : Relative l) (hr : Relative r) : Relative (.union l r)

/-- The paths that begin at the root and go down from there. -/
inductive Path.Rooted : Path → Prop where
  | root : Rooted .root
  | child {p r : Path} (hp : Rooted p) (hr : r.Relative) : Rooted (.child p r)
  | descendants {p r : Path} (hp : Rooted p) (hr : r.Relative) : Rooted (.descendants p r)
  | where {p r : Path} (hp : Rooted p) (hr : r.Relative) : Rooted (.where p r)
  | whereNot {p r : Path} (hp : Rooted p) (hr : r.Relative) : Rooted (.whereNot p r)
  | union {p q : Path} (hp : Rooted p) (hq : Rooted q) : Rooted (.union p q)

namespace Path

/-- Does a path go to the root? -/
def usesRoot (p : Path) : Bool :=
  p.any fun | .root => true | _ => false

/-- Does a path take a section? -/
def usesSlice (p : Path) : Bool :=
  p.any fun | .slice _ _ _ => true | _ => false

/-- Is the path a subscript that stands directly on the root? -/
def isOnRoot : Path → Bool
  | .child .root r => isRootSubscript r
  | _ => false

/-- Does a path put a subscript directly on the root? -/
def subscriptsRoot (p : Path) : Bool :=
  p.any isOnRoot

/-- Does a path go back to the root, inside the right-hand side of one of its steps? -/
def returnsToRoot : Path → Bool
  | .child l r => l.returnsToRoot || r.usesRoot
  | .descendants l r => l.returnsToRoot || r.usesRoot
  | .where l r => l.returnsToRoot || r.usesRoot
  | .whereNot l r => l.returnsToRoot || r.usesRoot
  | .union l r => l.returnsToRoot || r.returnsToRoot
  | _ => false

/-- A path is made of two others: what holds for a path in it holds for itself or in one of them. -/
def IsMadeOf (p l r : Path) : Prop :=
  ∀ test, p.any test = (test p || l.any test || r.any test)

/-- What is not found in a path is found in none of its parts. -/
theorem IsMadeOf.any_eq_false {p l r : Path} (h : p.IsMadeOf l r) {test : Path → Bool}
    (hp : p.any test = false) : l.any test = false ∧ r.any test = false := by
  rw [h, Bool.or_eq_false_iff, Bool.or_eq_false_iff] at hp
  exact ⟨hp.1.2, hp.2⟩

/-- A path puts no subscript directly on the root, and if the tops of the documents are to be kept it
takes no sections and makes no choices. -/
structure Descends (kept : Prop) (p : Path) : Prop where
  subscripts : p.subscriptsRoot = false
  arrays : kept → p.usesFilter = false ∧ p.usesSlice = false

/-- The parts of a path descend as it does. -/
theorem Descends.parts {kept : Prop} {p l r : Path} (hp : p.Descends kept) (h : p.IsMadeOf l r) :
    l.Descends kept ∧ r.Descends kept := by
  have hsub := h.any_eq_false hp.subscripts
  have harrays := fun hk => h.any_eq_false (hp.arrays hk).1
  have harrays' := fun hk => h.any_eq_false (hp.arrays hk).2
  exact ⟨⟨hsub.1, fun hk => ⟨(harrays hk).1, (harrays' hk).1⟩⟩,
    ⟨hsub.2, fun hk => ⟨(harrays hk).2, (harrays' hk).2⟩⟩⟩

/-- A path descends, and does not go to the root unless the tops are to be kept. -/
structure Fits (kept : Prop) (p : Path) : Prop extends p.Descends kept where
  root : ¬ kept → p.usesRoot = false

/-- The parts of a path fit as it does. -/
theorem Fits.parts {kept : Prop} {p l r : Path} (hp : p.Fits kept) (h : p.IsMadeOf l r) :
    l.Fits kept ∧ r.Fits kept := by
  obtain ⟨hl, hr⟩ := hp.toDescends.parts h
  have hroot := fun hk => h.any_eq_false (hp.root hk)
  exact ⟨⟨hl, fun hk => (hroot hk).1⟩, ⟨hr, fun hk => (hroot hk).2⟩⟩

theorem Rooted.relative {p : Path} (hp : p.Rooted) : p.Relative := by
  induction hp with
  | root => exact .root
  | child _ hr ih => exact .child ih hr
  | descendants _ hr ih => exact .descendants ih hr
  | «where» _ hr ih => exact .where ih hr
  | whereNot _ hr ih => exact .whereNot ih hr
  | union _ _ ihp ihq => exact .union ihp ihq

/-- Paths that go down do not come to one place twice. -/
theorem Relative.sharesPlaces_eq_false {p : Path} (hp : p.Relative) : p.sharesPlaces = false := by
  have hreturns : p.returns = false := by
    unfold returns
    induction hp with
    | fields | index | slice | filter | root => rfl
    | child _ _ ihl ihr | descendants _ _ ihl ihr | «where» _ _ ihl ihr | whereNot _ _ ihl ihr
    | union _ _ ihl ihr => rw [any, ihl, ihr]; rfl
  rw [sharesPlaces, hreturns, Bool.and_false]

/-- Without a subscript directly on the root, both sides of a child go through the array. -/
theorem address_child {l r : Path} (h : isOnRoot (.child l r) = false) :
    address (.child l r) = .child (address l) (address r) := by
  cases l with
  | root =>
    rw [isOnRoot] at h
    simp only [address, h, Bool.false_eq_true, if_false]
  | _ => rw [address]; nofun

/-- A subscript that stands on the root is left alone. -/
theorem address_of_isOnRoot {p : Path} (h : p.isOnRoot = true) : address p = p := by
  unfold isOnRoot at h
  split at h
  · rw [address, if_pos h]
  · cases h

theorem Descends.address_child {kept : Prop} {l r : Path} (h : (Path.child l r).Descends kept) :
    address (.child l r) = .child (address l) (address r) := by
  have hany := h.subscripts
  rw [subscriptsRoot, any, Bool.or_eq_false_iff, Bool.or_eq_false_iff] at hany
  exact Path.address_child hany.1.1

/-- Going through the array is going down. -/
theorem Relative.relative_address {p : Path} (hp : p.Relative) : (address p).Relative := by
  induction hp with
  | fields names => exact .fields names
  | index n => exact .index n
  | slice start stop stride => exact .slice start stop stride
  | filter conditions => exact .filter conditions
  | root => exact .child .root (.slice none none none)
  | @child l r hl hr ihl ihr =>
    cases h : isOnRoot (.child l r) with
    | false =>
      rw [address_child h]
      exact .child ihl ihr
    | true =>
      rw [address_of_isOnRoot h]
      exact .child hl hr
  | descendants _ _ ihl ihr => exact .descendants ihl ihr
  | «where» _ _ ihl ihr => exact .where ihl ihr
  | whereNot _ _ ihl ihr => exact .whereNot ihl ihr
  | union _ _ ihl ihr => exact .union ihl ihr

end Path

/-! ## Agreement -/

/-- The tops of the two evaluations, if they are kept: the document, and the array around it. -/
def Tops (document : Json) (kept : Prop) (a b : Json) : Prop :=
  kept → a = document ∧ b = .array [document]

variable {document : Json} {kept : Prop} {x y : Datum Json}

/-- The whole section of an array with one item is that item. -/
theorem sectionOf_singleton (v : Json) : sectionOf none none none [v] = .ok [(.item 0, v)] := by
  have hindices : sectionIndices 1 none none none = .ok [0] := rfl
  unfold sectionOf
  rw [List.length_singleton, hindices]
  rfl

/-- From an array with one item, the whole section goes down to that item. -/
theorem find_slice_singleton {v : Json} (hcell : x.cell = .array [v]) (hx : x.step.IsSettled) :
    (Path.slice none none none).find x = .ok (.data [x.under (.item 0, v)]) := by
  have hselect : (selectSection none none none x : Except EvalError _) =
      .ok [x.under (.item 0, v)] := by
    unfold selectSection
    rw [Datum.value_eq, hcell]
    show (sectionOf none none none [v] >>= x.below) = _
    rw [sectionOf_singleton]
    exact Datum.below_eq x [(.item 0, v)]
  rw [Path.find, Path.select, Datum.settle_eq hx, ok_bind, hselect]
  rfl

/-- A child goes on from the data of its left-hand side. -/
theorem find_child {l r : Path} {xs : List (Datum Json)} (hl : l.find x = .ok (.data xs)) :
    (Path.child l r).find x = do return .data (← gather r.find xs) := by
  unfold Path.find at hl
  rw [Path.find, Path.select_child, hl]
  rfl

/-- From a datum under the array, the root that goes through it is its only item. -/
theorem find_address_root (h : y.top = .array [document]) :
    (address .root).find y =
      .ok (.data [⟨document, .item 0, [(.array [document], .root)]⟩]) := by
  have hroot : Path.root.find y = .ok (.data [⟨.array [document], .root, []⟩]) := by
    rw [← h]
    rfl
  have hslice : (Path.slice none none none).find ⟨.array [document], .root, []⟩ = _ :=
    find_slice_singleton rfl trivial
  rw [address, find_child hroot, gather, hslice]
  rfl

/-- The root gives alike data under the document and under the array. -/
theorem root_agree (hx : x.top = document) (hy : y.top = .array [document]) :
    Agree (Selection.Alike (Tops document kept)) (Path.root.find x) ((address .root).find y) := by
  rw [find_address_root hy]
  subst hx
  exact .ok (.data (.cons ⟨rfl, trivial, trivial, fun _ => ⟨rfl, rfl⟩⟩ .nil))

/-- A path that goes down gives alike data from alike ones, with and without the array, if the tops
are kept or it does not go to the root. -/
theorem Path.Relative.stepsAgree {r : Path} (hr : r.Relative) (hfits : r.Fits kept) :
    StepsAgree (Tops document kept) r.find (address r).find := by
  induction hr with
  | fields names => exact fun x y h => fields_agree h names
  | index n => exact fun x y h => index_agree h n
  | slice start stop stride =>
    -- A path with a section keeps no tops, so nothing is asked of them.
    have hT : ∀ a b, Tops document kept a b := fun _ _ h => nomatch (hfits.arrays h).2
    exact fun x y h => slice_agree h hT start stop stride
  | filter conditions =>
    have hT : ∀ a b, Tops document kept a b := fun _ _ h => nomatch (hfits.arrays h).1
    exact fun x y h => filter_agree h hT conditions
  | root =>
    intro x y h
    -- A path with a root keeps the tops, so both are known here.
    have hkept : kept := by
      by_contra hkept
      cases hfits.root hkept
    exact root_agree (h.tops hkept).1 (h.tops hkept).2
  | child _ _ ihl ihr =>
    obtain ⟨hl, hr⟩ := hfits.parts fun _ => rfl
    rw [hfits.address_child]
    exact fun x y h => child_agree (ihl hl x y h) (ihr hr)
  | descendants _ _ ihl ihr =>
    obtain ⟨hl, hr⟩ := hfits.parts fun _ => rfl
    exact fun x y h => descendants_agree (ihl hl x y h) (ihr hr)
  | «where» _ _ ihl ihr =>
    obtain ⟨hl, hr⟩ := hfits.parts fun _ => rfl
    exact fun x y h => where_agree (ihl hl x y h) (ihr hr)
  | whereNot _ _ ihl ihr =>
    obtain ⟨hl, hr⟩ := hfits.parts fun _ => rfl
    exact fun x y h => whereNot_agree (ihl hl x y h) (ihr hr)
  | union _ _ ihl ihr =>
    obtain ⟨hl, hr⟩ := hfits.parts fun _ => rfl
    exact fun x y h => union_agree (ihl hl x y h) (ihr hr x y h)

/-- A path from the root gives alike data from any two data with the right tops, with and without
the array, if the tops are kept or it does not go back to the root. -/
theorem Path.Rooted.find_agree {p : Path} (hp : p.Rooted) (hdescends : p.Descends kept)
    (hreturns : ¬ kept → p.returnsToRoot = false) (hx : x.top = document)
    (hy : y.top = .array [document]) :
    Agree (Selection.Alike (Tops document kept)) (p.find x) ((address p).find y) := by
  -- The left-hand side starts where the path does, and the right-hand side goes on from alike data.
  have hright : ∀ {l r : Path}, r.Relative → r.Descends kept →
      (¬ kept → (l.returnsToRoot || r.usesRoot) = false) →
      (¬ kept → l.returnsToRoot = false) ∧
        StepsAgree (Tops document kept) r.find (address r).find := by
    intro l r hr hdescends hreturns
    refine ⟨fun hk => (Bool.or_eq_false_iff.mp (hreturns hk)).1, ?_⟩
    exact hr.stepsAgree ⟨hdescends, fun hk => (Bool.or_eq_false_iff.mp (hreturns hk)).2⟩
  induction hp with
  | root => exact root_agree hx hy
  | child _ hr ih =>
    obtain ⟨hdl, hdr⟩ := hdescends.parts fun _ => rfl
    obtain ⟨hl, hr⟩ := hright hr hdr hreturns
    rw [hdescends.address_child]
    exact child_agree (ih hdl hl) hr
  | descendants _ hr ih =>
    obtain ⟨hdl, hdr⟩ := hdescends.parts fun _ => rfl
    obtain ⟨hl, hr⟩ := hright hr hdr hreturns
    exact descendants_agree (ih hdl hl) hr
  | «where» _ hr ih =>
    obtain ⟨hdl, hdr⟩ := hdescends.parts fun _ => rfl
    obtain ⟨hl, hr⟩ := hright hr hdr hreturns
    exact where_agree (ih hdl hl) hr
  | whereNot _ hr ih =>
    obtain ⟨hdl, hdr⟩ := hdescends.parts fun _ => rfl
    obtain ⟨hl, hr⟩ := hright hr hdr hreturns
    exact whereNot_agree (ih hdl hl) hr
  | union _ _ ihp ihq =>
    obtain ⟨hdp, hdq⟩ := hdescends.parts fun _ => rfl
    have hreturns := fun hk => Bool.or_eq_false_iff.mp (hreturns hk)
    exact union_agree (ihp hdp fun hk => (hreturns hk).1) (ihq hdq fun hk => (hreturns hk).2)

/-! ## Evaluation -/

/-- A path that does not come to one place twice is evaluated in the plain memory. -/
theorem evaluate_eq {p : Path} (h : p.sharesPlaces = false) (v : Json) :
    evaluate p v = (p.find ⟨v, .document, []⟩ >>= fun s => s.list >>= List.mapM Datum.read) := by
  unfold evaluate Memory.run
  rw [h]
  rfl

/-- A rooted path, made to go through the array, selects from the array what it selects from the
document. -/
theorem evaluate_address {p : Path} (hp : p.Rooted) (hsub : p.subscriptsRoot = false)
    (hreturns : p.returnsToRoot = true → p.usesFilter = false ∧ p.usesSlice = false)
    (document : Json) :
    evaluate (address p) (.array [document]) = evaluate p document := by
  -- The tops have to be kept exactly if the path goes back to them.
  have hfind : Agree (Selection.Alike (Tops document (p.returnsToRoot = true)))
      (p.find ⟨document, .document, []⟩) ((address p).find ⟨.array [document], .document, []⟩) :=
    hp.find_agree ⟨hsub, hreturns⟩ (Bool.eq_false_iff.mpr ·) rfl rfl
  rw [evaluate_eq hp.relative.sharesPlaces_eq_false,
    evaluate_eq hp.relative.relative_address.sharesPlaces_eq_false]
  refine (Agree.eq ?_).symm
  refine hfind.bind fun s t hst => hst.list_agree.bind fun xs ys h => ?_
  rw [read_agree h]
  exact .refl _

/-! ## Predicates -/

/-- A predicate that matches what its evaluation on the document would select. -/
theorem hasMatch_of_evaluate {expression : String} {p q : Path} {document : Json}
    (hp : compile expression = .ok p) (hq : compilePredicate expression = .ok q)
    (h : evaluate q (.array [document]) = evaluate p document) {values : List Json}
    (hvalues : (findValues expression document).result = .ok values) :
    (hasMatch expression document).result = .ok (!values.isEmpty) := by
  rw [result_findValues, hp, ok_bind] at hvalues
  rw [result_hasMatch, hq, ok_bind, h]
  cases hevaluate : evaluate p document with
  | error e =>
    rw [hevaluate] at hvalues
    cases hvalues
  | ok found =>
    rw [hevaluate] at hvalues
    cases hvalues
    rfl

/-- **Root rewriting preserves meaning**: where an expression is a rooted path with no subscript
directly on the root, and goes back to the root only if it takes no sections and makes no choices,
the predicate selects from the array around a document, in order, what the query selects from the
document, or fails with the same error. So it matches exactly if the query selects something. -/
theorem predicate_agrees_with_query (expression : String) (p : Path)
    (hcompile : compile expression = .ok p) (hp : p.Rooted) (hsub : p.subscriptsRoot = false)
    (hreturns : p.returnsToRoot = true → p.usesFilter = false ∧ p.usesSlice = false)
    (document : Json) :
    (∃ q, compilePredicate expression = .ok q ∧
      evaluate q (.array [document]) = evaluate p document) ∧
    ∀ values, (findValues expression document).result = .ok values →
      (hasMatch expression document).result = .ok (!values.isEmpty) := by
  have hq : compilePredicate expression = .ok (address p) := by
    rw [compilePredicate, hcompile]
    rfl
  have hevaluate := evaluate_address hp hsub hreturns document
  exact ⟨⟨_, hq, hevaluate⟩, fun values => hasMatch_of_evaluate hcompile hq hevaluate⟩

/-- A union whose left-hand side goes back to the root from the members that it tests: with and
without the array, it selects both members. -/
theorem predicate_agrees_with_query_of_union :
    ∃ p, compile "($.a where ($.b)) | ($..c)" = .ok p ∧ p.Rooted ∧ p.subscriptsRoot = false ∧
      p.returnsToRoot = true ∧ p.usesFilter = false ∧ p.usesSlice = false ∧
      (∃ q, compilePredicate "($.a where ($.b)) | ($..c)" = .ok q ∧
        evaluate q (.array [.object [("a", .object [("c", .int 1)]), ("b", .null)]]) =
          .ok [.object [("c", .int 1)], .int 1]) ∧
      (hasMatch "($.a where ($.b)) | ($..c)"
        (.object [("a", .object [("c", .int 1)]), ("b", .null)])).result = .ok true := by
  let p : Path := .union (.child .root (.where (.fields ["a"]) (.child .root (.fields ["b"]))))
    (.descendants .root (.fields ["c"]))
  have hcompile : compile "($.a where ($.b)) | ($..c)" = .ok p := by rfl
  have hp : p.Rooted := .union (.child .root (.where (.fields _) (.child .root (.fields _))))
    (.descendants .root (.fields _))
  obtain ⟨⟨q, hq, hagrees⟩, hmatch⟩ := predicate_agrees_with_query "($.a where ($.b)) | ($..c)" p
    hcompile hp rfl (fun _ => ⟨rfl, rfl⟩) (.object [("a", .object [("c", .int 1)]), ("b", .null)])
  have hevaluate : evaluate p (.object [("a", .object [("c", .int 1)]), ("b", .null)]) =
      .ok [.object [("c", .int 1)], .int 1] := by
    rw [evaluate_eq rfl]
    rfl
  rw [result_findValues, hcompile, ok_bind, hevaluate] at hmatch
  exact ⟨p, hcompile, hp, rfl, rfl, rfl, rfl, ⟨q, hq, hagrees.trans hevaluate⟩, hmatch _ rfl⟩

end WebhookRelay.Query
