import PageTree.Proofs.Course
import PageTree.Proofs.Tables

/-!
# What holds of every element

Many facts about a rendered tree are facts about its elements one by one.  They are
established where the elements are made: in notices, leaves, containers and pages.  An
`Invariant` lists these places, and the induction over the walk is made once, here
(`Invariant.of_visit`, `Invariant.of_renders`).

What holds of an element may depend on the component that it was made from.  Components
are sound in a sense that the components inside them share.

The style and the properties of an element are records that come from the page and the theme.
What holds of these, and of records that are merged from such, holds of all styles and
properties in the tree (`MergesGood.invariant_hasRecords`).
-/

namespace PageTree

namespace Element

variable {Holds : Element → Prop} {element label : Element}

/-- Something holds of an element and of all its descendants. -/
def Throughout (Holds : Element → Prop) (element : Element) : Prop :=
  ∀ part ∈ element.walk, Holds part

/-- Something holds throughout a tree when it does at the top and throughout every
child. -/
theorem throughout_iff :
    element.Throughout Holds ↔
      Holds element ∧ ∀ child ∈ element.children, child.Throughout Holds := by
  rw [Throughout, walk_eq, walkAll_eq_flatMap, List.forall_mem_cons, List.forall_mem_flatMap]
  rfl

theorem Throughout.of_childless (childless : element.children = []) (own : Holds element) :
    element.Throughout Holds := by
  rw [throughout_iff, childless]
  exact ⟨own, List.forall_mem_nil _⟩

theorem Throughout.of_labelled (labelled : element.children = [label])
    (childless : label.children = []) (own : Holds element) (ownLabel : Holds label) :
    element.Throughout Holds := by
  rw [throughout_iff, labelled, List.forall_mem_singleton]
  exact ⟨own, .of_childless childless ownLabel⟩

end Element

namespace Renderer

/-- Every drawn element is the rendering of one of the components. -/
theorem Drawn.exists_of_mem {renderOne : Value → Path → Report Element} {path : Path}
    {start : Nat} {raws : List Value} {elements : List Element} {element : Element}
    (drawn : Drawn renderOne path start raws elements) (member : element ∈ elements) :
    ∃ raw ∈ raws, ∃ index : Int, (renderOne raw (path ++ [index])).outcome = .ok element := by
  obtain ⟨index, atIndex⟩ := List.mem_iff_getElem?.1 member
  obtain ⟨raw, rawAt, yielded⟩ := drawn.exists_of_getElem? atIndex
  exact ⟨raw, List.mem_of_getElem? rawAt, _, yielded⟩

/-- What holds of all elements that a renderer makes from sound components, said of each
place where it makes some. -/
structure Invariant (renderer : Renderer) (Sound : Value → Prop) (Holds : Element → Prop) :
    Prop where
  inner : ∀ raw child, Sound raw → child ∈ renderer.catalogue.inner raw → Sound child
  notice : ∀ key text defect, (renderer.notice key text defect).Throughout Holds
  leaf : ∀ raw type props style payload path element, Sound raw →
    Node.ofValue renderer.catalogue.isContainer raw = .leaf type props style payload →
    renderer.LeafElement (identityKey type path)
      (renderer.styleOf (.leaf type props style payload)) props payload element →
    element.Throughout Holds
  container : ∀ primitive fields path children, Sound (.object fields) →
    Holds (renderer.containerElement primitive fields path children)
  page : ∀ children, Holds (renderer.pageElement children)
  pageNotice : ∀ containerStyle textStyle text defect tree,
    (renderer.pageNotice containerStyle textStyle text defect).outcome = .ok tree →
    tree.Throughout Holds

namespace Invariant

variable {renderer : Renderer} {Sound : Value → Prop} {Holds : Element → Prop}
variable {levels : Nat} {raw page : Value} {path : Path} {element tree : Element}

/-- An invariant holds of all elements that a component is rendered to. -/
theorem of_visit (invariant : renderer.Invariant Sound Holds) (sound : Sound raw)
    (yielded : (renderer.visit levels raw path).outcome = .ok element) :
    element.Throughout Holds := by
  induction levels generalizing raw path element with
  | zero =>
      have spec := renderer.visit_spec 0 raw path
      generalize renderer.visit 0 raw path = report at spec yielded
      cases spec with
      | malformed | tooDeep =>
          cases yielded
          exact invariant.notice _ _ _
  | succ levels ih =>
      have spec := renderer.visit_spec (levels + 1) raw path
      generalize renderer.visit (levels + 1) raw path = report at spec yielded
      cases spec with
      | malformed =>
          cases yielded
          exact invariant.notice _ _ _
      | leaf _ shape =>
          exact invariant.leaf _ _ _ _ _ _ _ sound shape (leafElement_of_presentLeaf yielded)
      | container _ presented =>
          have container := Catalogue.isContainer_iff.2 ⟨_, presented⟩
          rw [Report.outcome_counted, Report.outcome_map_eq_ok_iff] at yielded
          obtain ⟨children, rendered, rfl⟩ := yielded
          rw [Element.throughout_iff]
          refine ⟨invariant.container _ _ _ _ sound, ?_⟩
          intro child member
          obtain ⟨childRaw, childMember, index, childYielded⟩ :=
            (renderEach_eq_ok_iff.1 rendered).exists_of_mem member
          rw [← Catalogue.inner_object container] at childMember
          exact ih (invariant.inner _ _ sound childMember) childYielded

/-- An invariant holds of all elements of a page. -/
theorem of_renders (invariant : renderer.Invariant Sound Holds)
    (sound : ∀ raw ∈ page.components, Sound raw) (rendered : renderer.Renders page tree) :
    tree.Throughout Holds := by
  by_cases unlisted : page.components = []
  · obtain ⟨report, found, yielded⟩ := rendered
    rcases renderPage_of_unlisted unlisted with scalar | missing | empty | ⟨kind, invalid⟩
    · rw [renderPage_of_isScalar scalar] at found
      cases found
    · obtain rfl := Except.ok.inj ((missing renderer).symm.trans found)
      rw [renderMissing, outcome_concluding] at yielded
      exact invariant.pageNotice _ _ _ _ _ yielded
    · obtain rfl := Except.ok.inj ((empty renderer).symm.trans found)
      rw [renderEmpty, outcome_concluding] at yielded
      exact invariant.pageNotice _ _ _ _ _ yielded
    · obtain rfl := Except.ok.inj ((invalid renderer).symm.trans found)
      rw [Report.outcome_reporting, renderEmpty, outcome_concluding] at yielded
      exact invariant.pageNotice _ _ _ _ _ yielded
  · obtain ⟨children, rfl, drawn⟩ := (renders_iff_of_components_ne_nil unlisted).1 rendered
    rw [Element.throughout_iff]
    refine ⟨invariant.page children, ?_⟩
    intro child member
    obtain ⟨raw, rawMember, index, yielded⟩ := drawn.exists_of_mem member
    exact invariant.of_visit (sound raw rawMember) yielded

theorem imp {Weaker : Element → Prop} (invariant : renderer.Invariant Sound Holds)
    (weaker : ∀ element, Holds element → Weaker element) : renderer.Invariant Sound Weaker where
  inner := invariant.inner
  notice key text defect part member := weaker part (invariant.notice key text defect part member)
  leaf raw type props style payload path element sound shape leaf part member :=
    weaker part (invariant.leaf raw type props style payload path element sound shape leaf part
      member)
  container primitive fields path children sound :=
    weaker _ (invariant.container primitive fields path children sound)
  page children := weaker _ (invariant.page children)
  pageNotice containerStyle textStyle text defect tree yielded part member :=
    weaker part (invariant.pageNotice containerStyle textStyle text defect tree yielded part member)

end Invariant

end Renderer

/-! ## Styles and properties -/

/-- Something holds of the style and of the properties of an element. -/
structure Element.HasRecords (Good : Record → Prop) (element : Element) : Prop where
  style : Good element.style
  props : Good element.props

/-- Something holds of the style and of the properties that a component asks for. -/
def Value.Asks (Good : Record → Prop) : Value → Prop
  | object fields => Good (Node.recordField fields "style") ∧ Good (Node.recordField fields "props")
  | _ => True

/-- What holds of all records of a theme, and of the empty one, holds of the record of any
name. -/
theorem Theme.base_of_forall {theme : Theme} {Good : Record → Prop} (empty : Good [])
    (each : ∀ entry ∈ theme, Good entry.2) (name : String) : Good (theme.base name) := by
  unfold Theme.base
  cases found : Table.get? theme name with
  | none => exact empty
  | some record => exact each _ (Table.mem_of_get?_eq found)

/-- What holds of two records holds of the one that is merged from them. -/
structure MergesGood (Good : Record → Prop) : Prop where
  empty : Good []
  merged : ∀ base override, Good base → Good override → Good (mergeStyle base override)

namespace MergesGood

variable {Good : Record → Prop} {Sound : Value → Prop} {renderer : Renderer} {raw : Value}
variable {type key : String} {props style payload : Record} {element : Element}

/-- The records of a leaf are those that its component asks for. -/
theorem of_leaf (merges : MergesGood Good) (asks : raw.Asks Good)
    (shape : Node.ofValue renderer.catalogue.isContainer raw = .leaf type props style payload) :
    Good style ∧ Good props := by
  unfold Node.ofValue at shape
  split at shape
  · cases shape
    exact ⟨merges.empty, merges.empty⟩
  · split at shape
    · cases shape
    · cases shape
      exact asks
  · cases shape

theorem styleOf (merges : MergesGood Good) (themed : ∀ name, Good (renderer.theme.base name))
    {node : Node} (own : Good node.style) : Good (renderer.styleOf node) := by
  have bare := merges.merged [] node.style merges.empty own
  unfold Renderer.styleOf Theme.resolve
  split
  · split
    · exact bare
    · exact merges.merged _ _ (themed node.type) own
  · exact bare

/-- A text in a style of the theme, with nothing of the page about it. -/
theorem of_base (merges : MergesGood Good) (themed : ∀ name, Good (renderer.theme.base name))
    {name : String} (styled : element.style = renderer.theme.base name)
    (bare : element.props = []) : element.HasRecords Good where
  style := styled ▸ themed name
  props := bare ▸ merges.empty

theorem of_leafElement (merges : MergesGood Good)
    (themed : ∀ name, Good (renderer.theme.base name)) (goodStyle : Good style)
    (goodProps : Good props) (leaf : renderer.LeafElement key style props payload element) :
    element.Throughout (Element.HasRecords Good) := by
  cases leaf with
  | text | image => exact Element.Throughout.of_childless rfl ⟨goodStyle, goodProps⟩
  | imagePlaceholder =>
      exact Element.Throughout.of_childless rfl
        ⟨merges.merged _ _ goodStyle (themed _), goodProps⟩
  | button =>
      exact Element.Throughout.of_labelled rfl rfl ⟨goodStyle, goodProps⟩
        (merges.of_base themed rfl rfl)
  | fallback =>
      exact Element.Throughout.of_labelled rfl rfl ⟨goodStyle, merges.empty⟩
        (merges.of_base themed rfl rfl)

/-- What holds of the records of a theme and of those that components ask for, and of merged
ones, holds of the records of all elements. -/
theorem invariant_hasRecords (merges : MergesGood Good)
    (themed : ∀ name, Good (renderer.theme.base name))
    (inner : ∀ raw child, Sound raw → child ∈ renderer.catalogue.inner raw → Sound child)
    (asks : ∀ raw, Sound raw → raw.Asks Good) :
    renderer.Invariant Sound (Element.HasRecords Good) where
  inner := inner
  notice key text defect := by
    refine Element.Throughout.of_labelled rfl rfl ?_ ?_
    · exact ⟨merges.empty, merges.empty⟩
    · exact merges.of_base themed rfl rfl
  leaf raw type props style payload path element sound shape leaf := by
    obtain ⟨goodStyle, goodProps⟩ := merges.of_leaf (asks raw sound) shape
    have ownStyle : Good (Node.leaf type props style payload).style := goodStyle
    exact merges.of_leafElement themed (merges.styleOf themed ownStyle) goodProps leaf
  container primitive fields path children sound := by
    obtain ⟨goodStyle, goodProps⟩ := asks _ sound
    exact ⟨merges.styleOf themed goodStyle, goodProps⟩
  page _ := merges.of_base themed rfl rfl
  pageNotice containerStyle textStyle text defect tree yielded := by
    cases yielded
    exact Element.Throughout.of_labelled rfl rfl (merges.of_base themed rfl rfl)
      (merges.of_base themed rfl rfl)

end MergesGood

end PageTree
