import PageTree.Proofs.Outcome
import PageTree.Proofs.Position

/-!
# The walk, case by case

`Visit` says once what rendering one component comes to: a notice in place of a
malformed or too deep component, an element around rendered children, or the
presentation of a leaf.  `Renderer.visit_spec` places every visit in one of these
cases, and all later proofs about the walk are inductions on the levels that are
left, with the cases of `Visit` inside.  `LeafElement` lists what leaves become.

`Renders` is the same for whole pages: the tree that a page is rendered to.
-/

namespace PageTree

/-! ## Shapes of components -/

namespace Value

/-- Whether a value can be a component at all: text or an object. -/
def isComponent : Value → Bool
  | string _ | object _ => true
  | _ => false

/-- The fields that a component shows.  Text has itself as its content. -/
def shownFields : Value → Record
  | string text => [("content", string text)]
  | object fields => fields
  | _ => []

end Value

variable {σ : Type} [Strategy σ]

namespace Catalogue

variable {catalogue : Catalogue σ} {raw : Value}

/-- The types with children are those presented as containers. -/
theorem isContainer_iff {catalogue : Catalogue} {type : String} :
    catalogue.isContainer type = true ↔
      ∃ primitive, catalogue.presentation type = .container primitive := by
  unfold isContainer
  cases catalogue.presentation type <;> simp [Presentation.isContainer]

theorem typeOf_object (fields : Record) :
    catalogue.typeOf (.object fields) = Node.typeOf fields := by
  simp only [typeOf, Node.ofValue]
  split <;> rfl

/-- A leaf shows the fields of its component. -/
theorem of_ofValue_eq_leaf {type : String} {props style payload : Record}
    (shape : Node.ofValue catalogue.isContainer raw = .leaf type props style payload) :
    raw.isComponent = true ∧ catalogue.typeOf raw = type ∧ payload = raw.shownFields := by
  have typed : catalogue.typeOf raw = type := by
    rw [typeOf, shape]
    rfl
  cases raw with
  | string text =>
      cases shape
      exact ⟨rfl, typed, rfl⟩
  | object fields =>
      simp only [Node.ofValue] at shape
      split at shape
      · cases shape
      · cases shape
        exact ⟨rfl, typed, rfl⟩
  | _ => cases shape

end Catalogue

namespace Node

variable {catalogue : Catalogue σ} {raw : Value} {type kind : String}
variable {props style payload : Record} {children : List Value}

/-- Only an object of a container type has the shape of a container. -/
theorem eq_object_of_ofValue_container
    (shape : ofValue catalogue.isContainer raw = .container type props style children) :
    ∃ fields, raw = .object fields ∧ catalogue.isContainer (typeOf fields) = true := by
  unfold ofValue at shape
  split at shape
  · cases shape
  · rename_i fields
    split at shape
    · rename_i container
      exact ⟨fields, rfl, container⟩
    · cases shape
  · cases shape

/-- Only text and an object of another type have the shape of a leaf. -/
theorem of_ofValue_leaf
    (shape : ofValue catalogue.isContainer raw = .leaf type props style payload) :
    (∃ text, raw = .string text ∧ type = textType) ∨
      ∃ fields, raw = .object fields ∧ catalogue.isContainer type = false := by
  unfold ofValue at shape
  split at shape
  · rename_i text
    cases shape
    exact .inl ⟨text, rfl, rfl⟩
  · split at shape
    · cases shape
    · rename_i other
      cases shape
      exact .inr ⟨_, rfl, by simpa using other⟩
  · cases shape

/-- What can be no component is malformed, with the kind of the value, and nothing else
is. -/
theorem ofValue_eq_malformed_iff :
    ofValue catalogue.isContainer raw = .malformed kind ↔
      raw.isComponent = false ∧ raw.kindName = kind := by
  cases raw with
  | string text => simp [ofValue, Value.isComponent]
  | object fields =>
      simp only [ofValue, Value.isComponent]
      split <;> simp
  | _ => simp [ofValue, Value.isComponent]

theorem isComponent_iff :
    raw.isComponent = true ↔ ∀ kind, ofValue catalogue.isContainer raw ≠ .malformed kind := by
  simp [ofValue_eq_malformed_iff]

/-- The walk goes on to nothing inside a component that is no container. -/
theorem inner_eq_nil
    (shape : ∀ type props style children,
      ofValue catalogue.isContainer raw ≠ .container type props style children) :
    catalogue.inner raw = [] := by
  cases raw with
  | object fields =>
      by_cases container : catalogue.isContainer (typeOf fields) = true
      · exact absurd (if_pos container) (shape _ _ _ _)
      · simp [Catalogue.inner, container]
  | _ => rfl

end Node

namespace Renderer

variable {renderer : Renderer} {levels : Nat} {raw page : Value} {path : Path}
variable {element : Element}

/-! ## One component -/

/-- A leaf as the catalogue presents its type.  A presentation that needs children
has nothing to present here. -/
def presentLeaf (renderer : Renderer) (type : String) (props style payload : Record)
    (path : Path) : Report Element :=
  let key := identityKey type path
  let resolved := renderer.styleOf (.leaf type props style payload)
  match renderer.catalogue.presentation type with
  | .container _ => .fault .childlessContainer
  | .text => presentText key resolved props payload
  | .image => renderer.presentImage key resolved props payload
  | .button => renderer.presentButton key resolved props payload
  | .fallback => renderer.presentFallback type key resolved

/-- The element of a container around its rendered children. -/
def containerElement (renderer : Renderer) (primitive : String) (fields : Record)
    (path : Path) (children : List Element) : Element :=
  { primitive
    key := identityKey (Node.typeOf fields) path
    style := renderer.styleOf (.container (Node.typeOf fields)
      (Node.recordField fields "props") (Node.recordField fields "style")
      (Node.childrenOf fields))
    props := Node.recordField fields "props"
    children }

/-- What rendering a component at a path comes to, by the levels left and the shape
of the component. -/
inductive Visit (renderer : Renderer) (path : Path) :
    Nat → Value → Report Element → Prop where
  | malformed (levels : Nat) {raw : Value} {kind : String}
      (shape : Node.ofValue renderer.catalogue.isContainer raw = .malformed kind) :
      Visit renderer path levels raw
        (flagged .malformedNode (identityKey Node.malformedType path) (.valueKind kind)
          (renderer.notice (identityKey Node.malformedType path) (malformedText kind)
            .malformedNode)).counted
  | tooDeep {raw : Value}
      (shape : ∀ kind,
        Node.ofValue renderer.catalogue.isContainer raw ≠ .malformed kind) :
      Visit renderer path 0 raw
        (((flagged .depthExceeded (identityKey (renderer.catalogue.typeOf raw) path) .none
          (renderer.notice (identityKey (renderer.catalogue.typeOf raw) path) tooDeepText
            .depthExceeded)).reporting
          (.depthExceeded (identityKey (renderer.catalogue.typeOf raw) path)
            renderer.maxDepth)).counted)
  | container (levels : Nat) {fields : Record} {primitive : String}
      (presented : renderer.catalogue.presentation (Node.typeOf fields) =
        .container primitive) :
      Visit renderer path (levels + 1) (.object fields)
        ((renderEach (renderer.visit levels) path 0 (Node.childrenOf fields)).map
          (renderer.containerElement primitive fields path)).counted
  | leaf (levels : Nat) {raw : Value} {type : String} {props style payload : Record}
      (shape : Node.ofValue renderer.catalogue.isContainer raw =
        .leaf type props style payload) :
      Visit renderer path (levels + 1) raw
        (renderer.presentLeaf type props style payload path).counted

/-- How the children of a container would be rendered is of no account for a leaf. -/
theorem present_leaf (renderAll : List Value → Report (List Element)) (type : String)
    (props style payload : Record) :
    renderer.present (renderer.catalogue.presentation type) renderAll
        (.leaf type props style payload) (identityKey type path)
        (renderer.styleOf (.leaf type props style payload)) =
      renderer.presentLeaf type props style payload path := by
  unfold present presentLeaf
  cases renderer.catalogue.presentation type <;> rfl

/-- An object of a container type is an element around its rendered children. -/
theorem visit_container {fields : Record} {primitive : String}
    (presented : renderer.catalogue.presentation (Node.typeOf fields) =
      .container primitive) :
    renderer.visit (levels + 1) (.object fields) path =
      ((renderEach (renderer.visit levels) path 0 (Node.childrenOf fields)).map
        (renderer.containerElement primitive fields path)).counted := by
  have container := Catalogue.isContainer_iff.2 ⟨primitive, presented⟩
  have shape : Node.ofValue renderer.catalogue.isContainer (.object fields) =
      .container (Node.typeOf fields) (Node.recordField fields "props")
        (Node.recordField fields "style") (Node.childrenOf fields) := if_pos container
  simp only [visit, shape, Presents.present, present, Node.type, presented]
  rfl

/-- What is malformed gets its notice on every level. -/
theorem visit_of_malformed [Presents σ] (renderer : Renderer σ) {kind : String}
    (shape : Node.ofValue renderer.catalogue.isContainer raw = .malformed kind) :
    renderer.visit levels raw path =
      (flagged .malformedNode (identityKey Node.malformedType path) (.valueKind kind)
        (renderer.notice (identityKey Node.malformedType path) (malformedText kind)
          .malformedNode)).counted := by
  unfold visit
  simp only [shape, Node.type]

/-- Every visit is one of the four. -/
theorem visit_spec (renderer : Renderer) (levels : Nat) (raw : Value) (path : Path) :
    renderer.Visit path levels raw (renderer.visit levels raw path) := by
  cases shape : Node.ofValue renderer.catalogue.isContainer raw with
  | malformed kind =>
      unfold visit
      simp only [shape, Node.type]
      exact .malformed levels shape
  | leaf type props style payload =>
      cases levels with
      | zero =>
          have spec : renderer.Visit path 0 raw _ := .tooDeep (by simp [shape])
          simpa only [visit, shape, Catalogue.typeOf] using spec
      | succ levels =>
          unfold visit
          simp only [shape, Node.type, Presents.present, present_leaf]
          exact .leaf levels shape
  | container type props style children =>
      cases levels with
      | zero =>
          have spec : renderer.Visit path 0 raw _ := .tooDeep (by simp [shape])
          simpa only [visit, shape, Catalogue.typeOf] using spec
      | succ levels =>
          obtain ⟨fields, rfl, container⟩ := Node.eq_object_of_ofValue_container shape
          obtain ⟨primitive, presented⟩ := Catalogue.isContainer_iff.1 container
          rw [visit_container presented]
          exact .container levels presented

/-- Anything else gets the notice of depth when no levels are left. -/
theorem visit_zero [Presents σ] (renderer : Renderer σ)
    (shape : ∀ kind, Node.ofValue renderer.catalogue.isContainer raw ≠ .malformed kind) :
    renderer.visit 0 raw path =
      ((flagged .depthExceeded (identityKey (renderer.catalogue.typeOf raw) path) .none
        (renderer.notice (identityKey (renderer.catalogue.typeOf raw) path) tooDeepText
          .depthExceeded)).reporting
        (.depthExceeded (identityKey (renderer.catalogue.typeOf raw) path)
          renderer.maxDepth)).counted := by
  unfold visit
  cases found : Node.ofValue renderer.catalogue.isContainer raw with
  | malformed kind => exact absurd found (shape kind)
  | leaf | container => simp only [Catalogue.typeOf, found]

/-- Where levels are left, a component is presented as the catalogue says. -/
theorem visit_succ [Presents σ] (renderer : Renderer σ)
    (shape : ∀ kind, Node.ofValue renderer.catalogue.isContainer raw ≠ .malformed kind) :
    let node := Node.ofValue renderer.catalogue.isContainer raw
    renderer.visit (levels + 1) raw path =
      (Presents.present renderer (renderer.catalogue.presentation node.type)
        (renderEach (renderer.visit levels) path 0) node (identityKey node.type path)
        (renderer.styleOf node) path).counted := by
  intro node
  unfold visit
  cases found : Node.ofValue renderer.catalogue.isContainer raw with
  | malformed kind => exact absurd found (shape kind)
  | leaf | container => simp only [node, found]

/-- A leaf is presented as long as there are levels left. -/
theorem visit_of_leaf (renderer : Renderer) {type : String} {props style payload : Record}
    (shape : Node.ofValue renderer.catalogue.isContainer raw =
      .leaf type props style payload) :
    renderer.visit (levels + 1) raw path =
      (renderer.presentLeaf type props style payload path).counted := by
  unfold visit
  simp only [shape, Node.type, Presents.present, present_leaf]

/-- The elements that leaves are presented as, with the style that the leaf has got. -/
inductive LeafElement (renderer : Renderer) (key : String) (style props payload : Record) :
    Element → Prop where
  | text (content : String) (placeholder : Option Defect)
      (flaw : ∀ defect ∈ placeholder, defect = .malformedLeafPayload) :
      LeafElement renderer key style props payload
        { primitive := Primitive.text, key, style, props, text := some content, placeholder }
  | image (source : String) :
      LeafElement renderer key style props payload
        { primitive := Primitive.image, key, style, props, source := some source }
  | imagePlaceholder :
      LeafElement renderer key style props payload
        { primitive := Primitive.view
          key
          style := mergeStyle style (renderer.theme.base "imagePlaceholder")
          props
          placeholder := some .malformedLeafPayload }
  | button (text : String) (placeholder : Option Defect) :
      LeafElement renderer key style props payload
        { primitive := Primitive.touchable
          key
          style
          props
          children :=
            [{ primitive := Primitive.text
               key := labelKey key
               style := renderer.theme.base "buttonText"
               text := some text
               placeholder }]
          action := declaredAction? payload
          onPress := (declaredAction? payload).map fun action =>
            ⟨renderer.host, action.kind, action.target⟩ }
  | fallback (type : String) :
      LeafElement renderer key style props payload
        { primitive := Primitive.view
          key
          style
          children := [renderer.fallbackLabel key type]
          placeholder := some .unknownComponentType }

/-- A leaf is presented as one of these. -/
theorem leafElement_of_presentLeaf {type : String} {props style payload : Record}
    (yielded : (renderer.presentLeaf type props style payload path).outcome = .ok element) :
    renderer.LeafElement (identityKey type path)
      (renderer.styleOf (.leaf type props style payload)) props payload element := by
  unfold presentLeaf at yielded
  generalize renderer.catalogue.presentation type = presentation at yielded
  cases presentation with
  | container primitive => cases yielded
  | text =>
      obtain ⟨content, -, shown⟩ := (Report.outcome_reading_eq_ok_iff _ _ _).1 yielded
      cases content <;> cases shown
      all_goals exact .text _ _ (by simp)
  | image =>
      obtain ⟨source, -, shown⟩ := (Report.outcome_reading_eq_ok_iff _ _ _).1 yielded
      cases given : Host.given? source <;> rw [given] at shown <;> cases shown
      · exact .imagePlaceholder
      · exact .image _
  | button =>
      simp only [presentButton, presentLabel, Report.outcome_map_eq_ok_iff] at yielded
      obtain ⟨label, labelled, rfl⟩ := yielded
      obtain ⟨text, -, shown⟩ := (Report.outcome_reading_eq_ok_iff _ _ _).1 labelled
      cases text <;> cases shown
      all_goals exact .button _ _
  | fallback =>
      cases yielded
      exact .fallback type

/-! ## Pages -/

/-- The tree that a page is rendered to. -/
def Renders (renderer : Renderer) (page : Value) (tree : Element) : Prop :=
  ∃ report, renderer.renderPage page = .ok report ∧ report.outcome = .ok tree

/-- Scalars describe no page. -/
theorem renderPage_of_isScalar [Presents σ] {renderer : Renderer σ} (scalar : page.isScalar = true) :
    renderer.renderPage page = .error (.wrongKind page.kindName) := by
  cases page with
  | null | array items | object fields => cases scalar
  | _ => rfl

/-- A page that is rendered is not a scalar. -/
theorem isScalar_eq_false_of_renderPage {report : Report Element}
    (found : renderer.renderPage page = .ok report) : page.isScalar = false := by
  cases page with
  | null | array items | object fields => rfl
  | _ => cases found

/-- What becomes of an object depends on the components that it lists. -/
theorem outcome_renderDescriptor_object (fields : Record) :
    (renderer.renderDescriptor (.object fields)).outcome =
      (renderer.renderComponents (Value.object fields).components).outcome := by
  simp only [renderDescriptor, Value.components]
  cases Table.get? fields "components" with
  | none => rfl
  | some value => cases value <;> rfl

/-- A page that lists components fails or yields as their rendering does. -/
theorem renderPage_of_components_ne_nil (renderer : Renderer)
    (listed : page.components ≠ []) :
    ∃ report, renderer.renderPage page = .ok report ∧
      report.outcome =
        ((renderer.renderChildren page.components []).map renderer.pageElement).outcome := by
  have listing : (renderer.renderComponents page.components).outcome =
      ((renderer.renderChildren page.components []).map renderer.pageElement).outcome := by
    cases components : page.components with
    | nil => exact absurd components listed
    | cons first rest => exact outcome_concluding _ _
  cases page with
  | array items => exact ⟨_, rfl, listing⟩
  | object fields => exact ⟨_, rfl, (outcome_renderDescriptor_object fields).trans listing⟩
  | _ => exact absurd rfl listed

/-- A page without components is a placeholder with a message. -/
theorem renderPage_of_components_eq_nil (renderer : Renderer) (described : page.isScalar = false)
    (unlisted : page.components = []) :
    ∃ report tree, renderer.renderPage page = .ok report ∧ report.outcome = .ok tree ∧
      tree.keys = [pageKey, pageKey ++ "/message"] := by
  have empty : ∃ tree, (renderer.renderComponents page.components).outcome = .ok tree ∧
      tree.keys = [pageKey, pageKey ++ "/message"] := by
    rw [unlisted]
    exact ⟨_, outcome_concluding _ _, rfl⟩
  obtain ⟨tree, yielded, keys⟩ := empty
  cases page with
  | null => exact ⟨_, _, rfl, outcome_concluding _ _, rfl⟩
  | array items => exact ⟨_, tree, rfl, yielded, keys⟩
  | object fields =>
      exact ⟨_, tree, rfl, (outcome_renderDescriptor_object fields).trans yielded, keys⟩
  | _ => cases described

/-- The tree of a page that lists components is a page around their renderings. -/
theorem renders_iff_of_components_ne_nil (listed : page.components ≠ []) :
    renderer.Renders page element ↔
      ∃ children, element = renderer.pageElement children ∧
        Drawn (renderer.visit renderer.maxDepth) [] 0 page.components children := by
  obtain ⟨report, found, outcome⟩ := renderer.renderPage_of_components_ne_nil listed
  have drawing : report.outcome = .ok element ↔
      ∃ children, element = renderer.pageElement children ∧
        Drawn (renderer.visit renderer.maxDepth) [] 0 page.components children := by
    rw [outcome, Report.outcome_map_eq_ok_iff]
    unfold renderChildren
    simp only [renderEach_eq_ok_iff, List.length_nil, Nat.sub_zero]
    constructor
    · rintro ⟨children, drawn, rfl⟩
      exact ⟨children, rfl, drawn⟩
    · rintro ⟨children, rfl, drawn⟩
      exact ⟨children, drawn, rfl⟩
  rw [← drawing]
  constructor
  · rintro ⟨other, same, yielded⟩
    obtain rfl : report = other := Except.ok.inj (found.symm.trans same)
    exact yielded
  · intro yielded
    exact ⟨report, found, yielded⟩

end Renderer

end PageTree
