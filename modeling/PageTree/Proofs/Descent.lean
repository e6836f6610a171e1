import PageTree.Proofs.Walk

/-!
# The tree follows the page

A rendered tree has an element for every component of its page, at the same
position, and that element is the rendering of the component on its own
(`Renders.exists_descendant?`).  A container has one child for each component that
it lists, in the same order, and so has the page (`Renders.follows`).
-/

namespace PageTree.Renderer

variable {renderer : Renderer} {levels index : Nat} {raw child node page : Value}
variable {path : Path} {below position : List Nat} {element tree : Element}

/-- The levels left for a component at a position, its own included. -/
theorem render_pathOf :
    renderer.render raw (pathOf position) =
      renderer.visit (renderer.maxDepth + 1 - position.length) raw (pathOf position) := by
  simp [render, levelsAt]

/-- Components drawn below a path, with the levels that are left there, are rendered
each on its own. -/
theorem Drawn.renderings {raws : List Value} {elements : List Element}
    (drawn : Drawn (renderer.visit levels) path 0 raws elements)
    (remaining : levels + path.length = renderer.maxDepth) :
    Drawn renderer.render path 0 raws elements := by
  refine ⟨drawn.1, ?_⟩
  intro index raw atIndex
  obtain ⟨element, elementAt, yielded⟩ := drawn.2 index raw atIndex
  refine ⟨element, elementAt, ?_⟩
  have left : renderer.levelsAt (path ++ [((0 + index : Nat) : Int)]) = levels := by
    simp only [levelsAt, List.length_append, List.length_singleton]
    omega
  rw [render, left]
  exact yielded

/-- One step down: the child element at an index is the rendering of the component
at that index. -/
theorem exists_child (atIndex : (renderer.catalogue.inner raw)[index]? = some child)
    (yielded : (renderer.visit (levels + 1) raw path).outcome = .ok element) :
    ∃ childElement, element.children[index]? = some childElement ∧
      (renderer.visit levels child (path ++ [(index : Int)])).outcome = .ok childElement := by
  obtain ⟨fields, rfl, container⟩ :=
    Catalogue.eq_object_of_mem_inner (List.mem_of_getElem? atIndex)
  obtain ⟨primitive, presented⟩ := Catalogue.isContainer_iff.1 container
  rw [visit_container presented, Report.outcome_counted, Report.outcome_map_eq_ok_iff] at yielded
  obtain ⟨children, drawn, rfl⟩ := yielded
  rw [Catalogue.inner_object container] at atIndex
  have childDrawn := (renderEach_eq_ok_iff.1 drawn).2 index child atIndex
  rwa [Nat.zero_add] at childDrawn

/-- The element at a position below a component is the rendering of what stands
there. -/
theorem exists_descendant?
    (found : renderer.catalogue.descendant? raw below = some node)
    (visible : below.length ≤ levels)
    (yielded : (renderer.visit levels raw path).outcome = .ok element) :
    ∃ part, element.descendant? below = some part ∧
      (renderer.visit (levels - below.length) node (path ++ pathOf below)).outcome =
        .ok part := by
  induction below generalizing levels raw path element with
  | nil =>
      obtain rfl : raw = node := by simpa using found
      exact ⟨element, by simp, by simpa using yielded⟩
  | cons index below ih =>
      obtain ⟨child, atIndex, foundBelow⟩ := Catalogue.descendant?_cons_eq_some_iff.1 found
      obtain ⟨levels, rfl⟩ : ∃ fewer, levels = fewer + 1 :=
        Nat.exists_eq_add_one.2 (Nat.lt_of_lt_of_le (Nat.succ_pos _) visible)
      obtain ⟨childElement, childAt, childYielded⟩ := exists_child atIndex yielded
      obtain ⟨part, partAt, partYielded⟩ :=
        ih foundBelow (Nat.le_of_succ_le_succ visible) childYielded
      refine ⟨part, ?_, ?_⟩
      · rw [Element.descendant?_cons, childAt]
        exact partAt
      · simpa using partYielded

namespace Renders

/-- The tree of a page has the rendering of each component at its position. -/
theorem exists_descendant? (rendered : renderer.Renders page tree)
    (found : renderer.catalogue.componentAt? page position = some node)
    (visible : position.length ≤ renderer.maxDepth + 1) :
    ∃ part, tree.descendant? position = some part ∧
      (renderer.render node (pathOf position)).outcome = .ok part := by
  cases position with
  | nil => cases found
  | cons index below =>
      obtain ⟨top, atIndex, foundBelow⟩ := Catalogue.componentAt?_cons_eq_some_iff.1 found
      have listed := Catalogue.components_ne_nil_of_componentAt? found
      obtain ⟨children, rfl, drawn⟩ := (renders_iff_of_components_ne_nil listed).1 rendered
      obtain ⟨topElement, topAt, topYielded⟩ := drawn.2 index top atIndex
      obtain ⟨part, partAt, partYielded⟩ :=
        Renderer.exists_descendant? foundBelow (Nat.le_of_succ_le_succ visible) topYielded
      refine ⟨part, ?_, ?_⟩
      · rw [Element.descendant?_cons]
        simp only [pageElement, topAt]
        exact partAt
      · rw [render_pathOf]
        simpa using partYielded

/-- A page and every container within the limit have one child for each component
that they list: the rendering of that component, in the place of the component. -/
theorem follows (rendered : renderer.Renders page tree) (listed : page.components ≠ []) :
    Drawn renderer.render [] 0 page.components tree.children ∧
      ∀ position fields, position.length ≤ renderer.maxDepth →
        renderer.catalogue.componentAt? page position = some (.object fields) →
        renderer.catalogue.isContainer (Node.typeOf fields) = true →
        ∃ element, tree.descendant? position = some element ∧
          Drawn renderer.render (pathOf position) 0 (Node.childrenOf fields)
            element.children := by
  constructor
  · obtain ⟨children, rfl, drawn⟩ := (renders_iff_of_components_ne_nil listed).1 rendered
    exact drawn.renderings rfl
  · intro position fields within found container
    obtain ⟨element, reached, yielded⟩ :=
      rendered.exists_descendant? found (Nat.le_succ_of_le within)
    obtain ⟨primitive, presented⟩ := Catalogue.isContainer_iff.1 container
    rw [render_pathOf, Nat.succ_sub within, visit_container presented,
      Report.outcome_counted, Report.outcome_map_eq_ok_iff] at yielded
    obtain ⟨children, drawn, rfl⟩ := yielded
    refine ⟨_, reached, (renderEach_eq_ok_iff.1 drawn).renderings ?_⟩
    rw [length_pathOf, Nat.sub_add_cancel within]

end Renders

end PageTree.Renderer
