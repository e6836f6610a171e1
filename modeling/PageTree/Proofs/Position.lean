import PageTree.Renderer

/-!
# Positions

A position is a list of indices.  In the data of a page the first index selects
one of the listed components and every further one a child; the walk goes on to
children only inside objects of a container type, and so do the look-ups here
(`Catalogue.descendant?`, `Catalogue.componentAt?`).  In a tree of elements the
indices select child elements (`Element.descendant?`).

Both sides can be changed at one position.  `Element.outline` is an element without
its children: outside the changed subtree all outlines stay what they were.
-/

namespace PageTree

/-- The path of a position: its indices as they stand in keys. -/
def pathOf (position : List Nat) : Path :=
  position.map fun index => Int.ofNat index

@[simp] theorem pathOf_nil : pathOf [] = [] := rfl

@[simp] theorem pathOf_cons (index : Nat) (position : List Nat) :
    pathOf (index :: position) = (index : Int) :: pathOf position := rfl

@[simp] theorem length_pathOf (position : List Nat) :
    (pathOf position).length = position.length := by
  simp [pathOf]

/-! ## Components in the data of a page -/

namespace Value

/-- The components that a page lists: the items of a list, or those of the field
`components` of an object. -/
def components : Value → List Value
  | array items => items
  | object fields => ((Table.get? fields "components").getD null).itemsOrEmpty
  | _ => []

/-- The same page with other components. -/
def withComponents (items : List Value) : Value → Value
  | array _ => array items
  | object fields => object (Table.insert fields "components" (array items))
  | other => other

/-- The children that a component describes. -/
def children : Value → List Value
  | object fields => Node.childrenOf fields
  | _ => []

/-- The same component with other children. -/
def withChildren (items : List Value) : Value → Value
  | object fields => object (Table.insert fields "children" (array items))
  | other => other

/-- Put another value in the place of a component inside a component. -/
def replaceDescendant (raw : Value) (path : List Nat) (replacement : Value) : Value :=
  match path with
  | [] => replacement
  | index :: path =>
      raw.withChildren (raw.children.modify index fun child =>
        child.replaceDescendant path replacement)

/-- Put another value in the place of a component of a page. -/
def replaceComponent (page : Value) (position : List Nat) (replacement : Value) : Value :=
  match position with
  | [] => page
  | index :: path =>
      page.withComponents (page.components.modify index fun top =>
        top.replaceDescendant path replacement)

/-- Neither null nor an array nor an object. -/
def isScalar : Value → Bool
  | bool _ | int _ | float _ | string _ => true
  | null | array _ | object _ => false

@[simp] theorem replaceDescendant_nil (replacement raw : Value) :
    raw.replaceDescendant [] replacement = replacement := rfl

/-- Scalars list no components. -/
theorem isScalar_eq_false_of_components_ne_nil {page : Value}
    (listed : page.components ≠ []) : page.isScalar = false := by
  cases page with
  | null | array items | object fields => rfl
  | _ => exact absurd rfl listed

/-- New components of a page take the place of those that it lists. -/
theorem components_withComponents {page : Value} (items : List Value)
    (listed : page.components ≠ []) : (page.withComponents items).components = items := by
  cases page with
  | array old => rfl
  | object fields => simp [withComponents, components, itemsOrEmpty]
  | _ => exact absurd rfl listed

end Value

namespace Node

variable {fields : Record} {name : String} {value : Value}

@[simp] theorem typeOf_insert (different : "type" ≠ name) :
    typeOf (Table.insert fields name value) = typeOf fields := by
  simp only [typeOf, Table.get?_insert_of_ne fields value different]

@[simp] theorem recordField_insert {other : String} (different : other ≠ name) :
    recordField (Table.insert fields name value) other = recordField fields other := by
  simp only [recordField, Table.get?_insert_of_ne fields value different]

@[simp] theorem childrenOf_insert (items : List Value) :
    childrenOf (Table.insert fields "children" (.array items)) = items := by
  simp [childrenOf, Value.itemsOrEmpty]

end Node

namespace Catalogue

variable {σ : Type} [Strategy σ] {catalogue : Catalogue σ}
variable {raw node page : Value} {index : Nat} {path : List Nat}

/-- The components inside a component that the walk goes on to: the children of an
object of a container type. -/
def inner (catalogue : Catalogue σ) : Value → List Value
  | .object fields =>
      if catalogue.isContainer (Node.typeOf fields) then Node.childrenOf fields else []
  | _ => []

/-- The component that a path of child positions leads to. -/
def descendant? (catalogue : Catalogue σ) (raw : Value) : List Nat → Option Value
  | [] => some raw
  | index :: path =>
      match (catalogue.inner raw)[index]? with
      | some child => catalogue.descendant? child path
      | none => none

/-- The component at a position of a page. -/
def componentAt? (catalogue : Catalogue σ) (page : Value) : List Nat → Option Value
  | [] => none
  | index :: path =>
      match page.components[index]? with
      | some top => catalogue.descendant? top path
      | none => none

/-- The type under which the walk treats a component. -/
def typeOf (catalogue : Catalogue σ) (raw : Value) : String :=
  (Node.ofValue catalogue.isContainer raw).type

@[simp] theorem descendant?_nil : catalogue.descendant? raw [] = some raw := rfl

theorem descendant?_cons_eq_some_iff :
    catalogue.descendant? raw (index :: path) = some node ↔
      ∃ child, (catalogue.inner raw)[index]? = some child ∧
        catalogue.descendant? child path = some node := by
  rw [descendant?]
  split <;> simp_all

theorem componentAt?_cons_eq_some_iff :
    catalogue.componentAt? page (index :: path) = some node ↔
      ∃ top, page.components[index]? = some top ∧
        catalogue.descendant? top path = some node := by
  rw [componentAt?]
  split <;> simp_all

/-- A page with a component at some position lists components. -/
theorem components_ne_nil_of_componentAt?
    (found : catalogue.componentAt? page path = some node) : page.components ≠ [] := by
  intro unlisted
  cases path with
  | nil => cases found
  | cons index path => simp [componentAt?_cons_eq_some_iff, unlisted] at found

@[simp] theorem inner_object {fields : Record}
    (container : catalogue.isContainer (Node.typeOf fields) = true) :
    catalogue.inner (.object fields) = Node.childrenOf fields := by
  simp [inner, container]

/-- Only an object of a container type has components inside. -/
theorem eq_object_of_mem_inner {child : Value} (member : child ∈ catalogue.inner raw) :
    ∃ fields, raw = .object fields ∧
      catalogue.isContainer (Node.typeOf fields) = true := by
  cases raw with
  | object fields =>
      refine ⟨fields, rfl, ?_⟩
      by_cases container : catalogue.isContainer (Node.typeOf fields) = true
      · exact container
      · simp [inner, container] at member
  | _ => simp [inner] at member

end Catalogue

/-! ## Elements in a tree -/

namespace Element

variable {element found replacement : Element} {path : List Nat}

/-- The element without its children. -/
def outline (element : Element) : Element :=
  { element with children := [] }

/-- Put another tree in the place of a descendant. -/
def replaceDescendant (element : Element) (path : List Nat) (replacement : Element) :
    Element :=
  match path with
  | [] => replacement
  | index :: path =>
      { element with
        children := element.children.modify index fun child =>
          child.replaceDescendant path replacement }

@[simp] theorem replaceDescendant_nil :
    element.replaceDescendant [] replacement = replacement := rfl

@[simp] theorem outline_withChildren (children : List Element) :
    outline { element with children } = outline element := rfl

@[simp] theorem descendant?_nil : element.descendant? [] = some element := by
  cases element
  rfl

theorem descendant?_cons (index : Nat) :
    element.descendant? (index :: path) =
      element.children[index]?.bind fun child => child.descendant? path := by
  rw [descendant?]
  cases element.children[index]? <;> rfl

/-- Descendants are part of the walk. -/
theorem mem_walk_of_descendant? (reached : element.descendant? path = some found) :
    found ∈ element.walk := by
  induction path generalizing element with
  | nil =>
      obtain rfl : element = found := by simpa using reached
      simp [walk_eq]
  | cons index path ih =>
      rw [descendant?_cons, Option.bind_eq_some_iff] at reached
      obtain ⟨child, atIndex, below⟩ := reached
      rw [walk_eq, walkAll_eq_flatMap, List.mem_cons, List.mem_flatMap]
      exact .inr ⟨child, List.mem_of_getElem? atIndex, ih below⟩

/-- The replacement stands where it was put. -/
theorem descendant?_replaceDescendant_self
    (reached : element.descendant? path = some found) :
    (element.replaceDescendant path replacement).descendant? path = some replacement := by
  induction path generalizing element with
  | nil => simp
  | cons index path ih =>
      rw [descendant?_cons, Option.bind_eq_some_iff] at reached
      obtain ⟨child, atIndex, below⟩ := reached
      rw [descendant?_cons, replaceDescendant, List.getElem?_modify_eq, atIndex]
      exact ih below

/-- Outside the replaced subtree every element keeps all its own fields. -/
theorem outline_replaceDescendant {other : List Nat} (outside : ¬path <+: other) :
    ((element.replaceDescendant path replacement).descendant? other).map outline =
      (element.descendant? other).map outline := by
  induction path generalizing element other with
  | nil => exact absurd (List.nil_prefix) outside
  | cons index path ih =>
      cases other with
      | nil => simp [replaceDescendant]
      | cons otherIndex other =>
          rw [descendant?_cons, descendant?_cons, replaceDescendant]
          by_cases same : index = otherIndex
          · subst otherIndex
            have below : ¬path <+: other := by
              simpa [List.cons_prefix_cons] using outside
            rw [List.getElem?_modify_eq]
            cases element.children[index]? with
            | none => rfl
            | some child => exact ih below
          · rw [List.getElem?_modify_ne _ _ same]

end Element

end PageTree
