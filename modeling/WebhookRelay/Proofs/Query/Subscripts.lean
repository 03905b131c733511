import WebhookRelay.Proofs.Query.Addressing
import WebhookRelay.Proofs.Query.Evaluation

/-!
# Subscripts on the root of a predicate

A subscript directly on the root of a predicate addresses the array around the document. So a filter
there tests the document itself, the only item of that array goes on to the rest of the predicate,
and there are no others.

- `Path.Chain`: the paths that go down from the root step by step.
- `Path.startingWith`: the path with another one in the place of its first root.
- `Condition.selects`: does a condition select anything from a document?
- `Path.Chain.find_agree`, `Path.Chain.find_nil`: a chain that starts with the item of the array
  goes on as from the document, and one that starts with nothing gives nothing.
- `evaluate_of_hit`, `evaluate_of_miss`: what such a predicate selects.
-/

namespace WebhookRelay.Query

/-! ## Chains -/

/-- A path that goes down from a place and never back to the root. -/
structure Path.Onward (r : Path) : Prop where
  relative : r.Relative
  root : r.usesRoot = false

/-- The root with steps after it, each of which goes down. -/
inductive Path.Chain : Path → Prop where
  | root : Chain .root
  | child {p r : Path} (hp : Chain p) (hr : r.Onward) : Chain (.child p r)
  | descendants {p r : Path} (hp : Chain p) (hr : r.Onward) : Chain (.descendants p r)
  | where {p r : Path} (hp : Chain p) (hr : r.Onward) : Chain (.where p r)
  | whereNot {p r : Path} (hp : Chain p) (hr : r.Onward) : Chain (.whereNot p r)

/-- A chain with another path in the place of its root. -/
def Path.startingWith (s : Path) : Path → Path
  | .root => s
  | .child l r => .child (startingWith s l) r
  | .descendants l r => .descendants (startingWith s l) r
  | .where l r => .where (startingWith s l) r
  | .whereNot l r => .whereNot (startingWith s l) r
  | p => p

namespace Path

variable {p l r s sub : Path}

/-- A child of anything but the root is no subscript on the root. -/
theorem isOnRoot_eq_false (hl : l ≠ .root) (r : Path) : isOnRoot (.child l r) = false := by
  cases l with
  | root => exact absurd rfl hl
  | _ => rfl

theorem ne_root_of_usesRoot (h : p.usesRoot = false) : p ≠ .root := by
  rintro rfl
  cases h

/-- Without a root there is no subscript on one. -/
theorem Onward.subscriptsRoot_eq_false (hr : r.Onward) : r.subscriptsRoot = false := by
  obtain ⟨hrelative, hroot⟩ := hr
  induction hrelative with
  | fields | index | slice | filter => rfl
  | root => cases hroot
  | @child l r _ _ ihl ihr =>
    obtain ⟨hl, hr⟩ := IsMadeOf.any_eq_false (fun _ => rfl) hroot
    rw [subscriptsRoot, any, Bool.or_eq_false_iff, Bool.or_eq_false_iff]
    exact ⟨⟨isOnRoot_eq_false (ne_root_of_usesRoot hl) r, ihl hl⟩, ihr hr⟩
  | descendants _ _ ihl ihr | «where» _ _ ihl ihr | whereNot _ _ ihl ihr | union _ _ ihl ihr =>
    obtain ⟨hl, hr⟩ := IsMadeOf.any_eq_false (fun _ => rfl) hroot
    rw [subscriptsRoot, any, Bool.or_eq_false_iff, Bool.or_eq_false_iff]
    exact ⟨⟨rfl, ihl hl⟩, ihr hr⟩

/-- Without a root, nothing has to go through the array. -/
theorem Onward.address_eq (hr : r.Onward) : address r = r := by
  obtain ⟨hrelative, hroot⟩ := hr
  induction hrelative with
  | fields | index | slice | filter => rfl
  | root => cases hroot
  | @child l r _ _ ihl ihr =>
    obtain ⟨hl, hr⟩ := IsMadeOf.any_eq_false (fun _ => rfl) hroot
    rw [address_child (isOnRoot_eq_false (ne_root_of_usesRoot hl) r), ihl hl, ihr hr]
  | descendants _ _ ihl ihr | «where» _ _ ihl ihr | whereNot _ _ ihl ihr | union _ _ ihl ihr =>
    obtain ⟨hl, hr⟩ := IsMadeOf.any_eq_false (fun _ => rfl) hroot
    rw [address, ihl hl, ihr hr]

/-- Where nothing is asked of the tops, a path that goes down gives alike data from alike ones. -/
theorem Onward.stepsAgree (hr : r.Onward) (document : Json) :
    StepsAgree (Tops document False) r.find r.find := by
  have hagree : StepsAgree (Tops document False) r.find (address r).find :=
    hr.relative.stepsAgree ⟨⟨hr.subscriptsRoot_eq_false, nofun⟩, fun _ => hr.root⟩
  rwa [hr.address_eq] at hagree

theorem Chain.relative_startingWith (hp : p.Chain) (hs : s.Relative) :
    (startingWith s p).Relative := by
  induction hp with
  | root => exact hs
  | child _ hr ih => exact .child ih hr.relative
  | descendants _ hr ih => exact .descendants ih hr.relative
  | «where» _ hr ih => exact .where ih hr.relative
  | whereNot _ hr ih => exact .whereNot ih hr.relative

theorem Chain.startingWith_root (hp : p.Chain) : startingWith .root p = p := by
  induction hp with
  | root => rfl
  | child _ _ ih | descendants _ _ ih | «where» _ _ ih | whereNot _ _ ih => rw [startingWith, ih]

theorem Chain.relative (hp : p.Chain) : p.Relative :=
  hp.startingWith_root ▸ hp.relative_startingWith .root

theorem Chain.startingWith_ne_root (hp : p.Chain) (hs : s ≠ .root) :
    startingWith s p ≠ .root := by
  cases hp with
  | root => exact hs
  | child | descendants | «where» | whereNot => nofun

/-- A chain that starts with a subscript on the root is left alone. -/
theorem Chain.address_startingWith (hp : p.Chain) (hsub : isRootSubscript sub = true) :
    address (startingWith (.child .root sub) p) = startingWith (.child .root sub) p := by
  induction hp with
  | root => exact address_of_isOnRoot hsub
  | child hp hr ih =>
    have hne := hp.startingWith_ne_root (s := .child .root sub) nofun
    rw [startingWith, address_child (isOnRoot_eq_false hne _), ih, hr.address_eq]
  | descendants _ hr ih | «where» _ hr ih | whereNot _ hr ih =>
    rw [startingWith, address, ih, hr.address_eq]

/-! ## Going on from the start -/

variable {document : Json} {x y : Datum Json}

/-- A chain goes on from its start as from the root, if the start gives what the root gives. -/
theorem Chain.find_agree (hp : p.Chain)
    (hs : Agree (Selection.Alike (Tops document False)) (Path.root.find x) (s.find y)) :
    Agree (Selection.Alike (Tops document False)) (p.find x) ((startingWith s p).find y) := by
  induction hp with
  | root => exact hs
  | child _ hr ih => exact child_agree ih (hr.stepsAgree document)
  | descendants _ hr ih => exact descendants_agree ih (hr.stepsAgree document)
  | «where» _ hr ih => exact where_agree ih (hr.stepsAgree document)
  | whereNot _ hr ih => exact whereNot_agree ih (hr.stepsAgree document)

/-- A chain whose start gives nothing gives nothing. -/
theorem Chain.find_nil (hp : p.Chain) (hs : s.find y = .ok (.data [])) :
    (startingWith s p).find y = .ok (.data []) := by
  induction hp with
  | root => exact hs
  | child _ _ ih | descendants _ _ ih | «where» _ _ ih | whereNot _ _ ih =>
    rw [startingWith, find, select]
    rw [find] at ih
    rw [ih]
    rfl

end Path

/-! ## What the predicate selects -/

variable {p sub : Path} {document : Json}

/-- The array around a document, as the root of a predicate. -/
def around (document : Json) : Datum Json := ⟨.array [document], .root, []⟩

/-- The document as the item of that array, under the number by which it was asked for. -/
def inside (i : Int) (document : Json) : Datum Json :=
  ⟨document, .item i, [(.array [document], .root)]⟩

/-- A subscript on the root gives what it gives from the array. -/
theorem find_onRoot {ds : List (Datum Json)} (h : sub.find (around document) = .ok (.data ds)) :
    (Path.child .root sub).find ⟨.array [document], .document, []⟩ = .ok (.data ds) := by
  have hroot : Path.root.find ⟨.array [document], .document, []⟩ = .ok (.data [around document]) :=
    rfl
  rw [find_child hroot, gather, h]
  show Except.ok (Selection.data (ds ++ [])) = _
  rw [ds.append_nil]

/-- A predicate whose subscript gives the document selects what the query selects. -/
theorem evaluate_of_hit (hp : p.Chain) (hrelative : sub.Relative) {i : Int}
    (h : sub.find (around document) = .ok (.data [inside i document])) :
    evaluate (.startingWith (.child .root sub) p) (.array [document]) = evaluate p document := by
  have hstart : Agree (Selection.Alike (Tops document False))
      (Path.root.find ⟨document, .document, []⟩)
      ((Path.child .root sub).find ⟨.array [document], .document, []⟩) := by
    rw [find_onRoot h]
    exact .ok (.data (.cons ⟨rfl, trivial, trivial, nofun⟩ .nil))
  rw [evaluate_eq hp.relative.sharesPlaces_eq_false, evaluate_eq
    (hp.relative_startingWith (.child .root hrelative)).sharesPlaces_eq_false]
  refine (Agree.eq ?_).symm
  refine (hp.find_agree hstart).bind fun s t hst => hst.list_agree.bind fun xs ys hxs => ?_
  rw [read_agree hxs]
  exact .refl _

/-- A predicate whose subscript gives nothing selects nothing. -/
theorem evaluate_of_miss (hp : p.Chain) (hrelative : sub.Relative)
    (h : sub.find (around document) = .ok (.data [])) :
    evaluate (.startingWith (.child .root sub) p) (.array [document]) = .ok [] := by
  rw [evaluate_eq (hp.relative_startingWith (.child .root hrelative)).sharesPlaces_eq_false,
    hp.find_nil (find_onRoot h)]
  rfl

/-! ## Subscripts on the array -/

/-- The first item from either end is the document. -/
theorem find_index_of_mem {n : Int} (hn : n = 0 ∨ n = -1) (document : Json) :
    (Path.index n).find (around document) = .ok (.data [inside n document]) := by
  obtain rfl | rfl := hn <;> rfl

/-- There are no further items. -/
theorem find_index_of_pos {n : Int} (hn : 1 ≤ n) (document : Json) :
    (Path.index n).find (around document) = .ok (.data []) := by
  have hitem : itemOf n (.array [document]) = .ok [] := by
    show (if n ≥ 1 then Except.ok [] else _) = _
    rw [if_pos hn]
  rw [Path.find, Path.select]
  show (itemOf n (.array [document]) >>= fun ps => (around document).below ps >>= fun ds =>
    Except.ok (Selection.data ds)) = _
  rw [hitem]
  rfl

/-- Does a condition select anything from a document? -/
def Condition.selects (c : Condition) (document : Json) : Except EvalError Bool :=
  Memory.run c.target.sharesPlaces do c.meets (← Datum.fresh document)

/-- Conditions that can be evaluated are met together exactly if each selects something. -/
theorem exists_meetsAll {conditions : List Condition}
    (h : ∀ c ∈ conditions, ∃ b, c.selects document = .ok b) :
    ∃ b, (meetsAll conditions document : Except EvalError Bool) = .ok b ∧
      (b = true ↔ ∀ c ∈ conditions, c.selects document = .ok true) := by
  induction conditions with
  | nil => exact ⟨true, rfl, fun _ => nofun, fun _ => rfl⟩
  | cons c conditions ih =>
    obtain ⟨first, hfirst⟩ := h c List.mem_cons_self
    obtain ⟨rest, hrest, hiff⟩ := ih fun c hc => h c (List.mem_cons_of_mem _ hc)
    refine ⟨first && rest, ?_, ?_⟩
    · rw [meetsAll]
      show (c.selects document >>= fun first =>
        meetsAll conditions document >>= fun rest => pure (first && rest)) = _
      rw [hfirst, hrest]
      rfl
    · rw [Bool.and_eq_true, hiff, List.forall_mem_cons, hfirst]
      exact and_congr_left' ⟨congrArg Except.ok, Except.ok.inj⟩

/-- A filter keeps the document if its conditions are met. -/
theorem find_filter_around {conditions : List Condition} {b : Bool}
    (h : (meetsAll conditions document : Except EvalError Bool) = .ok b) :
    (Path.filter conditions).find (around document) =
      .ok (.data (if b then [inside 0 document] else [])) := by
  have hkeep : keep (fun item : Json × Nat => meetsAll conditions item.1) [(document, 0)] =
      (.ok (if b then [(document, 0)] else []) : Except EvalError _) := by
    rw [keep, h]
    cases b <;> rfl
  rw [Path.find, Path.select]
  show (keep (fun item : Json × Nat => meetsAll conditions item.1) [(document, 0)] >>= fun kept =>
    (around document).below (kept.map fun item => (.item item.2, item.1)) >>= fun ds =>
      Except.ok (Selection.data ds)) = _
  rw [hkeep]
  cases b <;> rfl

/-! ## Predicates -/

variable {expression : String}

/-- A predicate with a subscript on its root ends in the verdict on what it selects as it stands. -/
theorem result_hasMatch_startingWith (hp : p.Chain) (hsub : isRootSubscript sub = true)
    (hcompile : compile expression = .ok (.startingWith (.child .root sub) p)) :
    (hasMatch expression document).result =
      verdict expression (evaluate (.startingWith (.child .root sub) p) (.array [document])) := by
  rw [result_hasMatch_of_compile, hcompile, ok_bind, hp.address_startingWith hsub]

/-- It matches as the query selects, if the subscript gives the document. -/
theorem result_hasMatch_of_hit (hp : p.Chain) (hrelative : sub.Relative)
    (hsub : isRootSubscript sub = true)
    (hcompile : compile expression = .ok (.startingWith (.child .root sub) p)) {i : Int}
    (h : sub.find (around document) = .ok (.data [inside i document])) {values : List Json}
    (hvalues : evaluate p document = .ok values) :
    (hasMatch expression document).result = .ok (!values.isEmpty) := by
  rw [result_hasMatch_startingWith hp hsub hcompile, evaluate_of_hit hp hrelative h, hvalues]
  rfl

/-- It does not match if the subscript gives nothing. -/
theorem result_hasMatch_of_miss (hp : p.Chain) (hrelative : sub.Relative)
    (hsub : isRootSubscript sub = true)
    (hcompile : compile expression = .ok (.startingWith (.child .root sub) p))
    (h : sub.find (around document) = .ok (.data [])) :
    (hasMatch expression document).result = .ok false := by
  rw [result_hasMatch_startingWith hp hsub hcompile, evaluate_of_miss hp hrelative h]
  rfl

/-- The subscripts by which the array around a document gives just that document. -/
def IsOnlyItem : Path → Prop
  | .index n => n = 0 ∨ n = -1
  | .slice start stop stride => start = none ∧ stop = none ∧ stride = none
  | _ => False

/-- **Subscripts on the root test the document**: a predicate that is a chain with a filter on its
root matches exactly if each condition of the filter selects something from the document and the
chain selects something from it as a query. With the first or last item, or all of them, in the
place of the filter it matches exactly if the query selects something, and with any further item it
never matches. None of this fails if the query and the conditions do not. -/
theorem rootSubscript_tests_document (p : Path) (hp : p.Chain) (document : Json) :
    (∀ expression conditions values,
      compile expression = .ok (.startingWith (.child .root (.filter conditions)) p) →
      evaluate p document = .ok values →
      (∀ c ∈ conditions, ∃ b, c.selects document = .ok b) →
      ∃ matched, (hasMatch expression document).result = .ok matched ∧
        (matched = true ↔ (∀ c ∈ conditions, c.selects document = .ok true) ∧ values ≠ [])) ∧
    (∀ expression sub values, IsOnlyItem sub →
      compile expression = .ok (.startingWith (.child .root sub) p) →
      evaluate p document = .ok values →
      ∃ matched, (hasMatch expression document).result = .ok matched ∧
        (matched = true ↔ values ≠ [])) ∧
    ∀ expression n, 1 ≤ n →
      compile expression = .ok (.startingWith (.child .root (.index n)) p) →
      (hasMatch expression document).result = .ok false := by
  have hselects : ∀ values : List Json, (!values.isEmpty) = true ↔ values ≠ [] := by simp
  refine ⟨?_, ?_, ?_⟩
  · intro expression conditions values hcompile hvalues hconditions
    obtain ⟨b, hb, hiff⟩ := exists_meetsAll hconditions
    have hfilter := find_filter_around hb
    cases b with
    | true =>
      have hmatch := result_hasMatch_of_hit hp (.filter conditions) rfl hcompile hfilter hvalues
      exact ⟨_, hmatch, (hselects values).trans ⟨fun h => ⟨hiff.mp rfl, h⟩, And.right⟩⟩
    | false =>
      have hmatch := result_hasMatch_of_miss hp (.filter conditions) rfl hcompile hfilter
      exact ⟨false, hmatch, nofun, fun h => hiff.mpr h.1⟩
  · intro expression sub values hsub hcompile hvalues
    cases sub with
    | index n =>
      have hindex := find_index_of_mem hsub document
      have hmatch := result_hasMatch_of_hit hp (.index n) rfl hcompile hindex hvalues
      exact ⟨_, hmatch, hselects values⟩
    | slice start stop stride =>
      obtain ⟨rfl, rfl, rfl⟩ := hsub
      have hslice : (Path.slice none none none).find (around document) = _ :=
        find_slice_singleton rfl trivial
      have hmatch := result_hasMatch_of_hit hp (.slice none none none) rfl hcompile hslice hvalues
      exact ⟨_, hmatch, hselects values⟩
    | _ => exact hsub.elim
  · intro expression n hn hcompile
    exact result_hasMatch_of_miss hp (.index n) rfl hcompile (find_index_of_pos hn document)

/-- Whether anyone with a login has opened something: the filter on the root tests the delivery, and
so do the only item of the array and the item behind it. -/
theorem rootSubscript_tests_document_of_login :
    ∃ p : Path, p.Chain ∧ compile "$..login" = .ok p ∧
      (hasMatch "$[?(@.action == 'opened')]..login" (.object [("action", .string "opened"),
        ("sender", .object [("login", .string "mona")])])).result = .ok true ∧
      (hasMatch "$[?(@.action == 'closed')]..login" (.object [("action", .string "opened"),
        ("sender", .object [("login", .string "mona")])])).result = .ok false ∧
      (hasMatch "$[-1]..login" (.object [("action", .string "opened"),
        ("sender", .object [("login", .string "mona")])])).result = .ok true ∧
      (hasMatch "$[1]..login" (.object [("action", .string "opened"),
        ("sender", .object [("login", .string "mona")])])).result = .ok false := by
  let p : Path := .descendants .root (.fields ["login"])
  let document : Json := .object [("action", .string "opened"),
    ("sender", .object [("login", .string "mona")])]
  let acted (action : String) : Condition :=
    .compared (.child .this (.fields ["action"])) .equal (.text action)
  have hp : p.Chain := .descendants .root ⟨.fields ["login"], rfl⟩
  have hvalues : evaluate p document = .ok [.string "mona"] := by
    rw [evaluate_eq rfl]
    rfl
  have hopened : (acted "opened").selects document = .ok true := by rfl
  have hclosed : (acted "closed").selects document = .ok false := by rfl
  obtain ⟨hfilter, hitem, hbeyond⟩ := rootSubscript_tests_document p hp document
  refine ⟨p, hp, by rfl, ?_, ?_, ?_, ?_⟩
  · obtain ⟨matched, hmatch, hiff⟩ := hfilter "$[?(@.action == 'opened')]..login" [acted "opened"]
      _ (by rfl) hvalues (by simp [hopened])
    rw [hmatch, hiff.mpr ⟨by simp [hopened], by simp⟩]
  · obtain ⟨matched, hmatch, hiff⟩ := hfilter "$[?(@.action == 'closed')]..login" [acted "closed"]
      _ (by rfl) hvalues (by simp [hclosed])
    have hnot : matched = false := by
      rw [Bool.eq_false_iff]
      intro h
      simpa [hclosed] using (hiff.mp h).1
    rw [hmatch, hnot]
  · obtain ⟨matched, hmatch, hiff⟩ := hitem "$[-1]..login" (.index (-1)) _ (.inr rfl) (by rfl)
      hvalues
    rw [hmatch, hiff.mpr (by simp)]
  · exact hbeyond "$[1]..login" 1 (by decide) (by rfl)

end WebhookRelay.Query
