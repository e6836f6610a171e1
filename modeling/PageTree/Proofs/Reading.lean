import Mathlib.Data.List.Forall2
import PageTree.Proofs.Defects
import PageTree.Proofs.LookAhead
import PageTree.Proofs.Tables

/-!
# What is read of a component

The walk reads the type and the style of a component, a few more fields that depend on
how its type is presented (`Presentation.reads`), and the children of a container.  Two
components of which the same is read (`Catalogue.ReadsAlike`) are rendered alike, with the
same counts and events (`Renderer.visit_of_readsAlike`).

So the other fields have no influence.  They may be changed in all components of a page
at once, and nothing comes of it (`Renderer.renderPage_of_pagesAgree`).
-/

namespace PageTree

/-! ## What presentations read -/

namespace Presentation

/-- The fields that are read to present a component.  The children of a container are
components of their own. -/
def reads : Presentation → List String
  | container _ => ["type", "style", "props"]
  | text => ["type", "style", "props", "content"]
  | image => ["type", "style", "props", "source"]
  | button => ["type", "style", "props", "text", "action", "target"]
  | fallback => ["type", "style"]

/-- What is made of these fields, the type and the style apart: the properties, the text
or source unless it cannot be written, and the action. -/
def shown : Presentation → Record →
    Record × Except Numeral.DigitLimitError (Option String) × Option Action
  | container _, fields => (Node.recordField fields "props", .ok none, none)
  | text, fields => (Node.recordField fields "props", Record.text? fields "content", none)
  | image, fields => (Node.recordField fields "props", Record.text? fields "source", none)
  | button, fields =>
      (Node.recordField fields "props", Record.text? fields "text",
        Renderer.declaredAction? fields)
  | fallback, _ => ([], .ok none, none)

variable {presentation : Presentation} {fields others : Record}

/-- The type of a component is read to find its presentation. -/
theorem type_mem_reads (presentation : Presentation) : "type" ∈ presentation.reads := by
  cases presentation <;> simp [reads]

/-- The style of a component is its own, however it is presented. -/
theorem style_mem_reads (presentation : Presentation) : "style" ∈ presentation.reads := by
  cases presentation <;> simp [reads]

/-- Components that agree on the fields that are read show the same. -/
theorem shown_congr
    (read : ∀ name ∈ presentation.reads, name ≠ "type" →
      Table.get? others name = Table.get? fields name) :
    presentation.shown others = presentation.shown fields := by
  cases presentation <;>
    simp [reads] at read <;>
    simp [shown, Node.recordField, Record.text?, Renderer.declaredAction?, read]

end Presentation

namespace Catalogue

/-- Two components of which the same is read.  Components inside a container are compared
one by one; a leaf may be compared with text. -/
inductive ReadsAlike (catalogue : Catalogue) : Value → Value → Prop where
  | same (raw : Value) : ReadsAlike catalogue raw raw
  | leaf {raw other : Value} (component : raw.isComponent = true)
      (otherComponent : other.isComponent = true)
      (leaf : catalogue.isContainer (catalogue.typeOf raw) = false)
      (type : catalogue.typeOf other = catalogue.typeOf raw)
      (style : Node.recordField other.shownFields "style" =
        Node.recordField raw.shownFields "style")
      (shown : (catalogue.presentation (catalogue.typeOf raw)).shown other.shownFields =
        (catalogue.presentation (catalogue.typeOf raw)).shown raw.shownFields) :
      ReadsAlike catalogue raw other
  | container {fields others : Record}
      (container : catalogue.isContainer (Node.typeOf fields) = true)
      (type : Node.typeOf others = Node.typeOf fields)
      (style : Node.recordField others "style" = Node.recordField fields "style")
      (props : Node.recordField others "props" = Node.recordField fields "props")
      (children : List.Forall₂ (ReadsAlike catalogue) (Node.childrenOf fields)
        (Node.childrenOf others)) :
      ReadsAlike catalogue (.object fields) (.object others)

variable {catalogue : Catalogue} {raw : Value}

/-- A component of a type without children is a leaf that shows its fields. -/
theorem ofValue_leaf (component : raw.isComponent = true)
    (leaf : catalogue.isContainer (catalogue.typeOf raw) = false) :
    Node.ofValue catalogue.isContainer raw = .leaf (catalogue.typeOf raw)
      (Node.recordField raw.shownFields "props") (Node.recordField raw.shownFields "style")
      raw.shownFields := by
  cases raw with
  | string text => rfl
  | object fields =>
      rw [typeOf_object] at leaf ⊢
      simp [Node.ofValue, leaf, Value.shownFields]
  | _ => cases component

end Catalogue

namespace Renderer

variable {renderer : Renderer} {levels : Nat} {path : Path} {raw other : Value}
variable {raws others : List Value}

/-- The style of a component comes from its type and the style that it asks for. -/
theorem styleOf_congr {node other : Node} (type : other.type = node.type)
    (style : other.style = node.style) : renderer.styleOf other = renderer.styleOf node := by
  rw [styleOf, styleOf, type, style]

/-- A leaf is presented from what is read of it. -/
theorem presentLeaf_congr {type : String} {fields others : Record}
    (style : Node.recordField others "style" = Node.recordField fields "style")
    (shown : (renderer.catalogue.presentation type).shown others =
      (renderer.catalogue.presentation type).shown fields) :
    renderer.presentLeaf type (Node.recordField others "props")
        (Node.recordField others "style") others path =
      renderer.presentLeaf type (Node.recordField fields "props")
        (Node.recordField fields "style") fields path := by
  have sameStyle : renderer.styleOf (.leaf type (Node.recordField others "props")
        (Node.recordField others "style") others) =
      renderer.styleOf (.leaf type (Node.recordField fields "props")
        (Node.recordField fields "style") fields) := styleOf_congr rfl style
  unfold presentLeaf
  rw [sameStyle]
  generalize renderer.catalogue.presentation type = presentation at shown
  cases presentation with
  | container primitive => rfl
  | text =>
      simp only [Presentation.shown, Prod.mk.injEq] at shown
      simp only [presentText, shown]
  | image =>
      simp only [Presentation.shown, Prod.mk.injEq] at shown
      simp only [presentImage, shown]
  | button =>
      simp only [Presentation.shown, Prod.mk.injEq] at shown
      simp only [presentButton, presentLabel, shown]
  | fallback => rfl

/-- So is the element of a container, apart from its children. -/
theorem containerElement_congr {primitive : String} {fields others : Record}
    (type : Node.typeOf others = Node.typeOf fields)
    (style : Node.recordField others "style" = Node.recordField fields "style")
    (props : Node.recordField others "props" = Node.recordField fields "props") :
    renderer.containerElement primitive others path =
      renderer.containerElement primitive fields path := by
  have sameStyle : renderer.styleOf (.container (Node.typeOf others)
        (Node.recordField others "props") (Node.recordField others "style")
        (Node.childrenOf others)) =
      renderer.styleOf (.container (Node.typeOf fields)
        (Node.recordField fields "props") (Node.recordField fields "style")
        (Node.childrenOf fields)) := styleOf_congr type style
  unfold containerElement
  rw [sameStyle, type, props]

/-- Lists of components of which the same is rendered are rendered alike. -/
theorem renderEach_of_forall₂ {Related : Value → Value → Prop}
    {renderOne : Value → Path → Report Element}
    (related : List.Forall₂ Related raws others)
    (same : ∀ raw other path, Related raw other → renderOne other path = renderOne raw path)
    (start : Nat) :
    renderEach renderOne path start others = renderEach renderOne path start raws := by
  induction related generalizing start with
  | nil => rfl
  | cons first rest ih => rw [renderEach, renderEach, same _ _ _ first, ih]

/-- Components of which the same is read are rendered alike. -/
theorem visit_of_readsAlike (alike : renderer.catalogue.ReadsAlike raw other) :
    renderer.visit levels other path = renderer.visit levels raw path := by
  induction levels generalizing raw other path with
  | zero =>
      cases alike with
      | same => rfl
      | leaf component otherComponent _ type =>
          exact visit_zero_congr component otherComponent type
      | container _ type =>
          apply visit_zero_congr rfl rfl
          rw [Catalogue.typeOf_object, Catalogue.typeOf_object, type]
  | succ levels ih =>
      cases alike with
      | same => rfl
      | leaf component otherComponent leaf type style shown =>
          have otherLeaf := leaf
          rw [← type] at otherLeaf
          rw [renderer.visit_of_leaf (Catalogue.ofValue_leaf component leaf),
            renderer.visit_of_leaf (Catalogue.ofValue_leaf otherComponent otherLeaf), type,
            presentLeaf_congr style shown]
      | @container fields others container type style props children =>
          obtain ⟨primitive, presented⟩ := Catalogue.isContainer_iff.1 container
          have otherPresented := presented
          rw [← type] at otherPresented
          have each : renderEach (renderer.visit levels) path 0 (Node.childrenOf others) =
              renderEach (renderer.visit levels) path 0 (Node.childrenOf fields) := by
            apply renderEach_of_forall₂ children
            intro child otherChild path alike
            exact ih alike
          rw [visit_container presented, visit_container otherPresented,
            containerElement_congr type style props, each]

/-- So are lists of them. -/
theorem renderChildren_of_readsAlike (path : Path)
    (alike : List.Forall₂ renderer.catalogue.ReadsAlike raws others) :
    renderer.renderChildren others path = renderer.renderChildren raws path := by
  apply renderEach_of_forall₂ alike
  intro raw other path alike
  exact visit_of_readsAlike alike

/-- And so are pages that list them. -/
theorem renderComponents_of_readsAlike
    (alike : List.Forall₂ renderer.catalogue.ReadsAlike raws others) :
    renderer.renderComponents others = renderer.renderComponents raws := by
  have children := renderer.renderChildren_of_readsAlike [] alike
  cases alike with
  | nil => rfl
  | cons => exact renderComponents_congr (List.cons_ne_nil _ _) (List.cons_ne_nil _ _) children

end Renderer

/-! ## Fields that are not read -/

/-- Two components that agree on everything that is read of them.  The children of a leaf
are among the fields that may differ, whatever they hold. -/
inductive Catalogue.AgreeWhereRead (catalogue : Catalogue) : Value → Value → Prop where
  | same (raw : Value) : AgreeWhereRead catalogue raw raw
  | object {fields others : Record}
      (read : ∀ name ∈ (catalogue.presentation (Node.typeOf fields)).reads,
        Table.get? others name = Table.get? fields name)
      (children : catalogue.isContainer (Node.typeOf fields) = true →
        List.Forall₂ (AgreeWhereRead catalogue) (Node.childrenOf fields)
          (Node.childrenOf others)) :
      AgreeWhereRead catalogue (.object fields) (.object others)

/-- Two pages whose components agree on everything that is read.  All fields of an object
but its components may differ. -/
inductive Catalogue.PagesAgree (catalogue : Catalogue) : Value → Value → Prop where
  | same (page : Value) : PagesAgree catalogue page page
  | list {raws others : List Value}
      (agree : List.Forall₂ catalogue.AgreeWhereRead raws others) :
      PagesAgree catalogue (.array raws) (.array others)
  | listed {fields others : Record} {raws otherRaws : List Value}
      (lists : Table.get? fields "components" = some (.array raws))
      (otherLists : Table.get? others "components" = some (.array otherRaws))
      (agree : List.Forall₂ catalogue.AgreeWhereRead raws otherRaws) :
      PagesAgree catalogue (.object fields) (.object others)
  | unlisted {fields others : Record}
      (same : Table.get? others "components" = Table.get? fields "components") :
      PagesAgree catalogue (.object fields) (.object others)

namespace Value

/-- The children of an object are smaller than the object. -/
theorem sizeOf_lt_of_mem_childrenOf {fields : Record} {child : Value}
    (member : child ∈ Node.childrenOf fields) : sizeOf child < sizeOf (object fields) := by
  unfold Node.childrenOf at member
  split at member
  next value found =>
    cases value with
    | array items =>
        have inItems := List.sizeOf_lt_of_mem member
        have inFields := List.sizeOf_lt_of_mem (Table.mem_of_get?_eq found)
        simp only [Value.itemsOrEmpty, Prod.mk.sizeOf_spec, array.sizeOf_spec,
          object.sizeOf_spec] at inItems inFields ⊢
        omega
    | _ => cases member
  next => cases member

/-- What holds of an object if it holds of its children, and of all other values, holds of
every value. -/
theorem childrenInduction {Holds : Value → Prop}
    (plain : ∀ raw, (∀ fields, raw ≠ object fields) → Holds raw)
    (inner : ∀ fields, (∀ child ∈ Node.childrenOf fields, Holds child) →
      Holds (object fields)) : (raw : Value) → Holds raw
  | object fields => inner fields fun child member => childrenInduction plain inner child
  | null | bool _ | int _ | float _ | string _ | array _ => plain _ (by simp)
termination_by raw => sizeOf raw
decreasing_by exact sizeOf_lt_of_mem_childrenOf member

end Value

namespace Catalogue

variable {catalogue : Catalogue} {raw other : Value}

/-- Objects of a type without children agree when the fields do that are read of them. -/
theorem AgreeWhereRead.leaf {fields others : Record}
    (leaf : catalogue.isContainer (Node.typeOf fields) = false)
    (read : ∀ name ∈ (catalogue.presentation (Node.typeOf fields)).reads,
      Table.get? others name = Table.get? fields name) :
    catalogue.AgreeWhereRead (.object fields) (.object others) := by
  refine .object read ?_
  intro container
  cases leaf.symm.trans container

/-- Of components that agree where they are read, the same is read. -/
theorem AgreeWhereRead.readsAlike (agree : catalogue.AgreeWhereRead raw other) :
    catalogue.ReadsAlike raw other := by
  induction raw using Value.childrenInduction generalizing other with
  | plain raw noObject =>
      cases agree with
      | same => exact .same raw
      | object => exact absurd rfl (noObject _)
  | inner fields ih =>
      cases agree with
      | same => exact .same _
      | @object fields others read children =>
          have typeRead : Table.get? others "type" = Table.get? fields "type" :=
            read _ (Presentation.type_mem_reads _)
          have styleRead : Table.get? others "style" = Table.get? fields "style" :=
            read _ (Presentation.style_mem_reads _)
          have type : Node.typeOf others = Node.typeOf fields := by
            rw [Node.typeOf, typeRead, Node.typeOf]
          have style : Node.recordField others "style" = Node.recordField fields "style" := by
            rw [Node.recordField, styleRead, Node.recordField]
          have shown := Presentation.shown_congr fun name member _ => read name member
          cases container : catalogue.isContainer (Node.typeOf fields) with
          | true =>
              obtain ⟨primitive, presented⟩ := isContainer_iff.1 container
              rw [presented] at shown
              have inner := (List.forall₂_and_left _ _).2
                ⟨ih, children container⟩
              exact .container container type style (congrArg Prod.fst shown)
                (inner.imp fun _ _ both => both.1 both.2)
          | false =>
              have sameType :
                  catalogue.typeOf (.object others) = catalogue.typeOf (.object fields) := by
                rw [typeOf_object, typeOf_object, type]
              rw [← catalogue.typeOf_object] at container shown
              exact .leaf rfl rfl container sameType style shown

end Catalogue

namespace Renderer

variable {renderer : Renderer} {page other : Value}

/-- Pages that agree on everything that is read are rendered alike. -/
theorem renderPage_of_pagesAgree (agree : renderer.catalogue.PagesAgree page other) :
    renderer.renderPage other = renderer.renderPage page := by
  cases agree with
  | same => rfl
  | list agree =>
      have alike := agree.imp fun _ _ each => each.readsAlike
      simp only [renderPage, Descriptor.ofValue?, Except.map, renderDescriptor,
        renderComponents_of_readsAlike alike]
  | listed lists otherLists agree =>
      have alike := agree.imp fun _ _ each => each.readsAlike
      simp only [renderPage, Descriptor.ofValue?, Except.map, renderDescriptor, lists, otherLists,
        renderComponents_of_readsAlike alike]
  | unlisted same =>
      simp only [renderPage, Descriptor.ofValue?, Except.map, renderDescriptor, same]

/-- A step of the walk goes nowhere from an object of a type without children. -/
theorem visitThrough_of_leaf {fields : Record}
    (leaf : renderer.catalogue.isContainer (Node.typeOf fields) = false)
    (visitBelow visitOther : Value → Path → Report Element) (path : Path) :
    renderer.visitThrough visitBelow (.object fields) path =
      renderer.visitThrough visitOther (.object fields) path := by
  have shape : Node.ofValue renderer.catalogue.isContainer (.object fields) =
      .leaf (Node.typeOf fields) (Node.recordField fields "props")
        (Node.recordField fields "style") fields := by
    simp [Node.ofValue, leaf]
  simp only [visitThrough, shape, Node.type, Presents.present, present_leaf]

/-- Fields that are not read have no influence.  Two pages may differ in any number of
objects at once, in all fields but those that are read of each object as its type is
presented: they are rendered to the same tree, with the same triggers, or stop with the same
fault, and the counts and the events are the same.  The fields of a page itself do not
matter either, except for its components.  Whatever children a leaf or a component of
unknown type has, the walk does not go on to them. -/
theorem unread_fields_have_no_influence (renderer : Renderer) :
    (∀ page other, renderer.catalogue.PagesAgree page other →
      renderer.renderPage other = renderer.renderPage page) ∧
    ∀ fields (visitBelow visitOther : Value → Path → Report Element) path,
      renderer.catalogue.isContainer (Node.typeOf fields) = false →
      renderer.visitThrough visitBelow (.object fields) path =
        renderer.visitThrough visitOther (.object fields) path := by
  constructor
  · intro page other agree
    exact renderPage_of_pagesAgree agree
  · intro fields visitBelow visitOther path leaf
    exact visitThrough_of_leaf leaf visitBelow visitOther path

/-- The children of a text, the properties of a component of unknown type, the content of
an image and the name of the page are exchanged, and the content of a container is erased.
The text is not left for its children, even if these would stop the rendering. -/
theorem unread_fields_exchanged :
    let renderer := standard Host.none
    let page : Value := .object [("id", .string "home"), ("components", .array
      [.object [("type", .string "container"), ("content", .string "none"), ("children", .array
        [.object [("type", .string "text"), ("content", .int 1), ("children", .array [.null])],
          .object [("type", .string "card"), ("props", .object [("width", .int 3)])]])],
        .object [("type", .string "image"), ("content", .string "drawing")]])]
    let other : Value := .object [("components", .array
      [.object [("type", .string "container"), ("children", .array
        [.object [("children", .string "many"), ("type", .string "text"), ("content", .int 1)],
          .object [("type", .string "card"), ("content", .string "seven")]])],
        .object [("type", .string "image"), ("content", .int 8)]])]
    let failing : Value → Path → Report Element := fun _ _ => .fault .childlessContainer
    let text : Record := [("type", .string "text"), ("children", .array [.string "inner"])]
    renderer.catalogue.PagesAgree page other ∧
      renderer.renderPage other = renderer.renderPage page ∧
      renderer.catalogue.isContainer (Node.typeOf text) = false ∧
      renderer.visitThrough failing (.object text) [0] =
        renderer.visitThrough renderer.render (.object text) [0] := by
  intro renderer page other failing text
  have agree : renderer.catalogue.PagesAgree page other := by
    refine .listed rfl rfl (.cons (.object ?_ fun _ => ?_) (.cons (.leaf rfl ?_) .nil))
    rotate_left
    · refine .cons (.leaf rfl ?_) (.cons (.leaf rfl ?_) .nil)
      all_goals simp [renderer, standard, Catalogue.standard, Catalogue.builtIn,
        Catalogue.presentation, Presentation.reads, Node.typeOf, Table.get?]
    all_goals simp [renderer, standard, Catalogue.standard, Catalogue.builtIn,
      Catalogue.presentation, Presentation.reads, Node.typeOf, Table.get?]
  obtain ⟨samePage, leaves⟩ := unread_fields_have_no_influence renderer
  exact ⟨agree, samePage page other agree, by decide,
    leaves text failing renderer.render [0] (by decide)⟩

end Renderer

end PageTree
