import Mathlib.Data.List.Nodup
import PageTree.Proofs.Position

/-!
# Encounters

The components that the walk through a page comes to, each with its position and in
the order of the walk: the listed components, and the children of those that hold
any, as far down as the walk looks.

The list is complete and says nothing twice: a component is in it exactly when a
position leads to it that is not too long (`mem_encounters`), and every position occurs
once (`nodup_encounters`).
-/

namespace PageTree

/-- What is encountered in each of several items, behind the index of the item. -/
def encountersInEach (find : Value → List (List Nat × Value)) (items : List Value) :
    List (List Nat × Value) :=
  items.zipIdx.flatMap fun (item, index) =>
    (find item).map fun (below, node) => (index :: below, node)

section InEach

variable {find : Value → List (List Nat × Value)} {items : List Value}
variable {position : List Nat} {node : Value}

theorem mem_encountersInEach :
    (position, node) ∈ encountersInEach find items ↔
      ∃ index below item, position = index :: below ∧ items[index]? = some item ∧
        (below, node) ∈ find item := by
  simp only [encountersInEach, List.mem_flatMap, List.mem_map, Prod.exists,
    List.mk_mem_zipIdx_iff_getElem?, Prod.mk.injEq]
  constructor
  · rintro ⟨item, index, atIndex, below, other, member, rfl, rfl⟩
    exact ⟨index, below, item, rfl, atIndex, member⟩
  · rintro ⟨index, below, item, rfl, atIndex, member⟩
    exact ⟨item, index, atIndex, below, node, member, rfl, rfl⟩

/-- Different items are encountered at different positions. -/
theorem nodup_encountersInEach (each : ∀ item, ((find item).map Prod.fst).Nodup) :
    ((encountersInEach find items).map Prod.fst).Nodup := by
  have positions : (encountersInEach find items).map Prod.fst =
      items.zipIdx.flatMap fun (item, index) =>
        ((find item).map Prod.fst).map (List.cons index) := by
    simp [encountersInEach, List.map_flatMap, Function.comp_def]
  rw [positions, List.nodup_flatMap]
  constructor
  · rintro ⟨item, index⟩ -
    exact (each item).map List.cons_injective
  · rw [List.pairwise_iff_getElem]
    intro left right leftLt rightLt before position leftMem rightMem
    simp only [List.getElem_zipIdx, Nat.zero_add, List.mem_map] at leftMem rightMem
    obtain ⟨leftBelow, -, rfl⟩ := leftMem
    obtain ⟨rightBelow, -, same⟩ := rightMem
    exact absurd (List.cons.inj same).1 (Nat.ne_of_gt before)

/-- What is told of the encounters without regard to the index of the item is told item
by item. -/
theorem map_encountersInEach {α : Type} (tell : List Nat × Value → α)
    (tellBelow : List Nat × Value → α)
    (same : ∀ index below node, tell (index :: below, node) = tellBelow (below, node)) :
    (encountersInEach find items).map tell =
      items.flatMap fun item => (find item).map tellBelow := by
  have unnumbered : items.zipIdx.map Prod.fst = items := List.zipIdx_map_fst 0 items
  conv => rhs; rw [← unnumbered, List.flatMap_map]
  simp only [encountersInEach, List.map_flatMap, List.map_map, Function.comp_def, same]

/-- What is looked for among the encounters without regard to the index of the item is
looked for item by item. -/
theorem findSome?_encountersInEach {α : Type} (tell : List Nat × Value → Option α)
    (tellBelow : List Nat × Value → Option α)
    (same : ∀ index below node, tell (index :: below, node) = tellBelow (below, node)) :
    (encountersInEach find items).findSome? tell =
      items.findSome? fun item => (find item).findSome? tellBelow := by
  calc
    (encountersInEach find items).findSome? tell =
        ((encountersInEach find items).map tell).findSome? id := by
      rw [List.findSome?_map, Function.id_comp]
    _ = (items.flatMap fun item => (find item).map tellBelow).findSome? id := by
      rw [map_encountersInEach tell tellBelow same]
    _ = items.findSome? fun item => (find item).findSome? tellBelow := by
      induction items with
      | nil => rfl
      | cons item items ih =>
          rw [List.flatMap_cons, List.findSome?_append, ih, List.findSome?_map,
            Function.id_comp, List.findSome?_cons]
          cases (find item).findSome? tellBelow <;> rfl

end InEach

namespace Catalogue

variable {catalogue : Catalogue} {levels : Nat} {raw node page : Value}
variable {position : List Nat}

/-- The components that the walk comes to within a component, itself included, each
with its position below; so many further levels are looked at. -/
def encountersBelow (catalogue : Catalogue) : Nat → Value → List (List Nat × Value)
  | 0, raw => [([], raw)]
  | levels + 1, raw =>
      ([], raw) :: encountersInEach (catalogue.encountersBelow levels) (catalogue.inner raw)

/-- The components that the walk through a page comes to, at so many levels. -/
def encounters (catalogue : Catalogue) (levels : Nat) (page : Value) :
    List (List Nat × Value) :=
  match levels with
  | 0 => []
  | levels + 1 => encountersInEach (catalogue.encountersBelow levels) page.components

theorem mem_encountersBelow :
    (position, node) ∈ catalogue.encountersBelow levels raw ↔
      position.length ≤ levels ∧ catalogue.descendant? raw position = some node := by
  induction levels generalizing raw position with
  | zero =>
      simp only [encountersBelow, List.mem_singleton, Prod.mk.injEq, Nat.le_zero,
        List.length_eq_zero_iff]
      constructor
      · rintro ⟨rfl, rfl⟩
        exact ⟨rfl, rfl⟩
      · rintro ⟨rfl, found⟩
        exact ⟨rfl, (Option.some.inj found).symm⟩
  | succ levels ih =>
      simp only [encountersBelow, List.mem_cons, Prod.mk.injEq, mem_encountersInEach, ih]
      cases position with
      | nil => simp [eq_comm]
      | cons index below =>
          simp only [descendant?_cons_eq_some_iff, List.length_cons, Nat.add_le_add_iff_right]
          constructor
          · rintro (⟨absurdity, -⟩ | ⟨_, _, child, same, atIndex, short, found⟩)
            · cases absurdity
            · cases same
              exact ⟨short, child, atIndex, found⟩
          · rintro ⟨short, child, atIndex, found⟩
            exact .inr ⟨index, below, child, rfl, atIndex, short, found⟩

theorem nodup_encountersBelow (levels : Nat) (raw : Value) :
    ((catalogue.encountersBelow levels raw).map Prod.fst).Nodup := by
  induction levels generalizing raw with
  | zero => simp [encountersBelow]
  | succ levels ih =>
      rw [encountersBelow, List.map_cons, List.nodup_cons]
      constructor
      · intro member
        obtain ⟨⟨position, node⟩, inside, same⟩ := List.mem_map.1 member
        obtain ⟨index, below, item, rfl, -⟩ := mem_encountersInEach.1 inside
        cases same
      · exact nodup_encountersInEach ih

/-- A component is encountered when a position leads to it that is not too long. -/
theorem mem_encounters :
    (position, node) ∈ catalogue.encounters levels page ↔
      position.length ≤ levels ∧ catalogue.componentAt? page position = some node := by
  cases levels with
  | zero => cases position <;> simp [encounters, componentAt?]
  | succ levels =>
      simp only [encounters, mem_encountersInEach, mem_encountersBelow]
      cases position with
      | nil => simp [componentAt?]
      | cons index below =>
          simp only [componentAt?_cons_eq_some_iff, List.length_cons,
            Nat.add_le_add_iff_right]
          constructor
          · rintro ⟨_, _, top, same, atIndex, short, found⟩
            cases same
            exact ⟨short, top, atIndex, found⟩
          · rintro ⟨short, top, atIndex, found⟩
            exact ⟨index, below, top, rfl, atIndex, short, found⟩

/-- No position is encountered twice. -/
theorem nodup_encounters (catalogue : Catalogue) (levels : Nat) (page : Value) :
    ((catalogue.encounters levels page).map Prod.fst).Nodup := by
  cases levels with
  | zero => exact List.nodup_nil
  | succ levels => exact nodup_encountersInEach (nodup_encountersBelow levels)

end Catalogue

end PageTree
