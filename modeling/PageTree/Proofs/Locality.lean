import PageTree.Proofs.Encounters
import PageTree.Proofs.LookAhead
import PageTree.Proofs.Usage

/-!
# What a registration touches

A registration changes how the components of one type are presented.  The walk asks the
catalogue only about the types of the components that it renders, and what it learns there
decides where it goes on.  So two catalogues that agree on the types of the components that
the walk comes to with one of them lead to the same rendering
(`Renderer.visit_withCatalogue`), and a registration for another type leaves a page as it
was, whether it succeeds or not.

A strategy might ask the catalogue for itself, or render components that are not on the
page.  Those that do not are `Confined`, and all built-in ones are.
-/

namespace PageTree

variable {σ : Type}

/-- The same renderer with another catalogue. -/
def Renderer.withCatalogue (renderer : Renderer σ) (catalogue : Catalogue σ) : Renderer σ :=
  { renderer with catalogue }

/-! ## Confined strategies -/

/-- The components that a node holds. -/
def Node.children : Node → List Value
  | container _ _ _ children => children
  | _ => []

theorem Node.children_ofValue [Strategy σ] (catalogue : Catalogue σ) (raw : Value) :
    (ofValue catalogue.isContainer raw).children = catalogue.inner raw := by
  cases raw with
  | object fields =>
      rw [ofValue, Catalogue.inner]
      split <;> rfl
  | _ => rfl

/-- A strategy that presents a component without a look at the catalogue, and renders nothing
for it but children of the component, in whatever selection. -/
def Confined [Presents σ] (strategy : σ) : Prop :=
  ∀ (renderer : Renderer σ) (catalogue : Catalogue σ)
    (renderAll renderOther : List Value → Report (List Element)) (node : Node)
    (key : String) (style : Record) (path : Path),
    (∀ raws, raws ⊆ node.children → renderAll raws = renderOther raws) →
    Presents.present (renderer.withCatalogue catalogue) strategy renderAll node key style path =
      Presents.present renderer strategy renderOther node key style path

/-- The built-in strategies are confined. -/
theorem Presentation.confined (presentation : Presentation) : Confined presentation := by
  intro renderer catalogue renderAll renderOther node key style path same
  cases presentation with
  | container primitive =>
      cases node with
      | container type props asked children =>
          have inside := same children (List.Subset.refl children)
          simp only [Presents.present, Renderer.present, inside]
      | _ => rfl
  | _ => cases node <;> rfl

namespace Catalogue

/-- Two catalogues that treat a type alike. -/
structure AgreeOn (left right : Catalogue σ) (type : String) : Prop where
  presentation : left.presentation type = right.presentation type
  contains : left.contains type = right.contains type

variable {left right : Catalogue σ} {type tag : String}

/-- A catalogue agrees on every other type with the one before a registration. -/
theorem agreeOn_afterRegister (catalogue : Catalogue σ) (strategy : σ) (replace : Bool)
    (other : type ≠ tag) :
    (catalogue.afterRegister tag strategy replace).AgreeOn catalogue type := by
  rw [afterRegister, register]
  cases catalogue.contains tag && !replace with
  | true => exact ⟨rfl, rfl⟩
  | false =>
      have found := Table.get?_insert_of_ne catalogue.presentations strategy other
      constructor
      · exact congrArg (Option.getD · catalogue.fallback) found
      · exact congrArg Option.isSome found

variable [Strategy σ]

theorem AgreeOn.isContainer (agree : left.AgreeOn right type) :
    left.isContainer type = right.isContainer type :=
  congrArg Strategy.isContainer agree.presentation

/-- The type of a component does not depend on a catalogue. -/
theorem typeOf_eq (left right : Catalogue σ) (raw : Value) :
    left.typeOf raw = right.typeOf raw := by
  cases raw with
  | object fields => rw [typeOf_object, typeOf_object]
  | _ => rfl

/-- A component has the same shape for catalogues that agree on its type. -/
theorem ofValue_isContainer_congr {raw : Value}
    (agree : raw.isComponent = true → left.AgreeOn right (right.typeOf raw)) :
    Node.ofValue left.isContainer raw = Node.ofValue right.isContainer raw := by
  cases raw with
  | object fields =>
      have same := (agree rfl).isContainer
      rw [typeOf_object] at same
      rw [Node.ofValue, same, Node.ofValue]
  | _ => rfl

end Catalogue

namespace Renderer

variable {renderer : Renderer σ} {catalogue : Catalogue σ}
variable {levels : Nat} {path : Path} {raw page : Value}

/-! ## One component -/

/-- The catalogue decides by the type alone which style a component has. -/
theorem styleOf_withCatalogue (node : Node)
    (agree : catalogue.AgreeOn renderer.catalogue node.type) :
    (renderer.withCatalogue catalogue).styleOf node = renderer.styleOf node := by
  unfold styleOf
  rw [← agree.contains]
  rfl

variable [Strategy σ] [Presents σ]

/-- Notices do not depend on the catalogue. -/
theorem visit_withCatalogue_of_malformed (renderer : Renderer σ) (catalogue : Catalogue σ)
    (noComponent : raw.isComponent = false) :
    (renderer.withCatalogue catalogue).visit levels raw path = renderer.visit levels raw path := by
  rw [visit_of_malformed _ (Node.ofValue_eq_malformed_iff.2 ⟨noComponent, rfl⟩),
    visit_of_malformed _ (Node.ofValue_eq_malformed_iff.2 ⟨noComponent, rfl⟩)]
  rfl

theorem visit_zero_withCatalogue (renderer : Renderer σ) (catalogue : Catalogue σ)
    (component : raw.isComponent = true) :
    (renderer.withCatalogue catalogue).visit 0 raw path = renderer.visit 0 raw path := by
  rw [visit_zero _ (Node.isComponent_iff.1 component),
    visit_zero _ (Node.isComponent_iff.1 component),
    Catalogue.typeOf_eq (renderer.withCatalogue catalogue).catalogue renderer.catalogue]
  rfl

/-- A component is rendered alike with catalogues that agree on its type and on those of the
components that the walk renders below it, if all these are presented by confined
strategies. -/
theorem visit_withCatalogue
    (confined : ∀ below node, below.length < levels →
      renderer.catalogue.descendant? raw below = some node → node.isComponent = true →
      Confined (renderer.catalogue.presentation (renderer.catalogue.typeOf node)))
    (agree : ∀ below node, below.length < levels →
      renderer.catalogue.descendant? raw below = some node → node.isComponent = true →
      catalogue.AgreeOn renderer.catalogue (renderer.catalogue.typeOf node)) :
    (renderer.withCatalogue catalogue).visit levels raw path = renderer.visit levels raw path := by
  induction levels generalizing raw path with
  | zero =>
      cases component : raw.isComponent with
      | false => exact visit_withCatalogue_of_malformed _ _ component
      | true => exact visit_zero_withCatalogue _ _ component
  | succ levels ih =>
      cases component : raw.isComponent with
      | false => exact visit_withCatalogue_of_malformed _ _ component
      | true =>
          have agreeHere := agree [] raw (Nat.succ_pos levels) rfl component
          have confinedHere := confined [] raw (Nat.succ_pos levels) rfl component
          have sameShape :
              Node.ofValue (renderer.withCatalogue catalogue).catalogue.isContainer raw =
                Node.ofValue renderer.catalogue.isContainer raw :=
            Catalogue.ofValue_isContainer_congr fun _ => agreeHere
          have sameStrategy :
              (renderer.withCatalogue catalogue).catalogue.presentation
                  (renderer.catalogue.typeOf raw) =
                renderer.catalogue.presentation (renderer.catalogue.typeOf raw) :=
            agreeHere.presentation
          -- whatever children are selected, each of them stands at a place of its own below `raw`,
          -- so both hypotheses pass down to it
          have inside (raws : List Value) (selected : raws ⊆ renderer.catalogue.inner raw) :
              renderEach ((renderer.withCatalogue catalogue).visit levels) path 0 raws =
                renderEach (renderer.visit levels) path 0 raws := by
            apply renderEach_congr rfl
            intro index child other atIndex otherAt
            obtain rfl : child = other := Option.some.inj (atIndex.symm.trans otherAt)
            obtain ⟨place, atPlace⟩ :=
              List.mem_iff_getElem?.1 (selected (List.mem_of_getElem? atIndex))
            have below (position : List Nat) (node : Value)
                (found : renderer.catalogue.descendant? child position = some node) :
                renderer.catalogue.descendant? raw (place :: position) = some node :=
              Catalogue.descendant?_cons_eq_some_iff.2 ⟨child, atPlace, found⟩
            apply ih
            · intro position node short found
              exact confined (place :: position) node (Nat.succ_lt_succ short)
                (below position node found)
            · intro position node short found
              exact agree (place :: position) node (Nat.succ_lt_succ short)
                (below position node found)
          have sameChildren := Node.children_ofValue renderer.catalogue raw
          rw [← sameChildren] at inside
          have shape := (@Node.isComponent_iff _ _ renderer.catalogue _).1 component
          have otherShape := shape
          rw [← sameShape] at otherShape
          rw [visit_succ renderer shape, visit_succ (renderer.withCatalogue catalogue) otherShape,
            sameShape, styleOf_withCatalogue _ agreeHere, ← Catalogue.typeOf, sameStrategy]
          exact congrArg Report.counted (confinedHere _ _ _ _ _ _ _ _ inside)

/-! ## Pages -/

/-- So is a page, with catalogues that agree on the types of all components within the
limit. -/
theorem renderPage_withCatalogue
    (confined : ∀ position node, position.length ≤ renderer.maxDepth →
      renderer.catalogue.componentAt? page position = some node → node.isComponent = true →
      Confined (renderer.catalogue.presentation (renderer.catalogue.typeOf node)))
    (agree : ∀ position node, position.length ≤ renderer.maxDepth →
      renderer.catalogue.componentAt? page position = some node → node.isComponent = true →
      catalogue.AgreeOn renderer.catalogue (renderer.catalogue.typeOf node)) :
    (renderer.withCatalogue catalogue).renderPage page = renderer.renderPage page := by
  by_cases listed : page.components = []
  · rcases renderPage_of_unlisted listed with scalar | missing | empty | ⟨kind, reported⟩
    · rw [renderPage_of_isScalar scalar, renderPage_of_isScalar scalar]
    · rw [missing, missing]
      rfl
    · rw [empty, empty]
      rfl
    · rw [reported, reported]
      rfl
  · have children : (renderer.withCatalogue catalogue).renderChildren page.components [] =
        renderer.renderChildren page.components [] := by
      apply renderEach_congr rfl
      intro index top other atIndex otherAt
      obtain rfl : top = other := Option.some.inj (atIndex.symm.trans otherAt)
      have below (position : List Nat) (node : Value)
          (found : renderer.catalogue.descendant? top position = some node) :
          renderer.catalogue.componentAt? page (index :: position) = some node :=
        Catalogue.componentAt?_cons_eq_some_iff.2 ⟨top, atIndex, found⟩
      apply visit_withCatalogue
      · intro position node short found
        exact confined (index :: position) node short (below position node found)
      · intro position node short found
        exact agree (index :: position) node short (below position node found)
    rw [renderPage_of_listed _ listed, renderPage_of_listed _ listed]
    cases components : page.components with
    | nil => exact absurd components listed
    | cons first rest =>
        rw [components] at children
        simp only [renderComponents, children]
        rfl

/-- A registration touches only the components of its own type.  A page is rendered before
and after it to the same tree, with the same triggers, or stops with the same fault, with the
same counts and events, as long as no object or text within the limit on nesting is of that
type.  It does not matter whether the registration succeeds, nor what it registers, and
neither do malformed components and those that are nested too deeply.  The strategies may be
of any kind, if those that present the page are confined, and the built-in ones are. -/
theorem registration_touches_only_its_type :
    (∀ presentation : Presentation, Confined presentation) ∧
    ∀ {σ : Type} [Strategy σ] [Presents σ] (renderer : Renderer σ) (tag : String) (strategy : σ)
      (replace : Bool) (page : Value),
      (∀ position node, position.length ≤ renderer.maxDepth →
        renderer.catalogue.componentAt? page position = some node → node.isComponent = true →
        Confined (renderer.catalogue.presentation (renderer.catalogue.typeOf node))) →
      (∀ position node, position.length ≤ renderer.maxDepth →
        renderer.catalogue.componentAt? page position = some node → node.isComponent = true →
        renderer.catalogue.typeOf node ≠ tag) →
      (renderer.withCatalogue
          (renderer.catalogue.afterRegister tag strategy replace)).renderPage page =
        renderer.renderPage page := by
  refine ⟨Presentation.confined, ?_⟩
  intro σ _ _ renderer tag strategy replace page confined unvisited
  apply renderPage_withCatalogue confined
  intro position node visible found component
  apply Catalogue.agreeOn_afterRegister
  exact unvisited position node visible found component

/-- Containers are registered for the types of two components that are too deep, one of them
new and one that of a bare text, and for the name by which malformed components are reported.
The registration for a type that is not on the page is refused. -/
theorem registrations_beside_a_page :
    let renderer : Renderer :=
      ⟨Theme.standard, Catalogue.standard, Host.none, 1, Nat.one_pos⟩
    let card : Value := .object [("type", .string "card"), ("children", .array [.null])]
    let page : Value := .array [.int 3, .object [("type", .string "container"),
      ("children", .array [card, .string "deep"])], .object [("type", .string "")]]
    let unvisited (tag : String) : Prop :=
      ∀ position node, position.length ≤ renderer.maxDepth →
        renderer.catalogue.componentAt? page position = some node → node.isComponent = true →
        renderer.catalogue.typeOf node ≠ tag
    let rendersAfter (tag : String) (replace : Bool) : Prop :=
      (renderer.withCatalogue (renderer.catalogue.afterRegister tag
        (.container Primitive.view) replace)).renderPage page = renderer.renderPage page
    (unvisited "card" ∧ rendersAfter "card" false) ∧
      (unvisited "malformed" ∧ rendersAfter "malformed" false) ∧
      (unvisited "text" ∧ rendersAfter "text" true) ∧
      unvisited "button" ∧ rendersAfter "button" false := by
  intro renderer card page unvisited rendersAfter
  have types : ∀ encounter ∈ renderer.catalogue.encounters renderer.maxDepth page,
      encounter.2.isComponent = true →
        renderer.catalogue.typeOf encounter.2 ∈ ["container", "unknown"] := by
    decide
  have beside : ∀ tag, tag ∉ ["container", "unknown"] → unvisited tag := by
    intro tag other position node visible found component same
    have member := Catalogue.mem_encounters.2 ⟨visible, found⟩
    exact other (same ▸ types (position, node) member component)
  have kept : ∀ tag replace, unvisited tag → rendersAfter tag replace := by
    intro tag replace notVisited
    obtain ⟨confined, touches⟩ := registration_touches_only_its_type
    exact touches renderer tag _ replace page (fun _ _ _ _ _ => confined _) notVisited
  have card := beside "card" (by decide)
  have malformed := beside "malformed" (by decide)
  have text := beside "text" (by decide)
  have button := beside "button" (by decide)
  exact ⟨⟨card, kept _ _ card⟩, ⟨malformed, kept _ _ malformed⟩, ⟨text, kept _ _ text⟩, button,
    kept _ _ button⟩

end Renderer

end PageTree
