import PageTree.Proofs.Descent
import PageTree.Proofs.Failure

/-!
# Substitution

Rendering is compositional: to render a page in which one component has been
exchanged, it is enough to render the new component on its own, under the path of
its position, and to put the result in the place of the old element.  Nothing else
in the tree depends on the component, and nothing else in the page on where the
component stands.

This holds of failures as well: the new page fails as the new component does on its own.
Where text is not presented as a container, only integers that are too long to be shown
make them fail (`faultBelow?_eq_none_iff`).
-/

namespace PageTree.Renderer

variable {renderer : Renderer} {levels index start : Nat} {path : Path}
variable {raw child node page : Value} {below position : List Nat}
variable {element fresh tree : Element}

/-- Changing one component of a list changes its rendering and no other. -/
theorem Drawn.outcome_modify {renderOne : Value → Path → Report Element} {raws : List Value}
    {elements : List Element} {exchanged : Except RenderFault Element}
    (image : Value → Value) (change : Element → Element → Element)
    (drawn : Drawn renderOne path start raws elements)
    (atIndex : raws[index]? = some raw) (elementAt : elements[index]? = some element)
    (changed : (renderOne (image raw) (path ++ [((start + index : Nat) : Int)])).outcome =
      exchanged.map (change element)) :
    (renderEach renderOne path start (raws.modify index image)).outcome =
      exchanged.map fun fresh => elements.modify index fun old => change old fresh := by
  -- the components in front of the changed one are drawn as before, so if it fails, it is the
  -- first that does
  induction raws generalizing index start elements with
  | nil => cases atIndex
  | cons head rest ih =>
      obtain ⟨first, others, rfl, firstDrawn, restDrawn⟩ := drawn_cons_iff.1 drawn
      cases index with
      | zero =>
          obtain rfl : head = raw := Option.some.inj atIndex
          obtain rfl : first = element := Option.some.inj elementAt
          rw [Nat.add_zero] at changed
          rw [List.modify_zero_cons, renderEach, Report.outcome_andThen, changed]
          simp only [Report.outcome_map, renderEach_eq_ok_iff.2 restDrawn]
          cases exchanged <;> rfl
      | succ index =>
          have later := ih restDrawn atIndex elementAt
            (by rwa [Nat.add_assoc, Nat.add_comm 1 index])
          rw [List.modify_succ_cons, renderEach, Report.outcome_andThen, firstDrawn]
          simp only [Except.bind, Report.outcome_map, later]
          cases exchanged <;> rfl

/-- A container with other children is rendered as before around the renderings of these:
its children are not among the fields that its own element shows. -/
theorem visit_withChildren {fields : Record} {primitive : String} (items : List Value)
    (presented : renderer.catalogue.presentation (Node.typeOf fields) =
      .container primitive) :
    renderer.visit (levels + 1) ((Value.object fields).withChildren items) path =
      ((renderEach (renderer.visit levels) path 0 items).map
        (renderer.containerElement primitive fields path)).counted := by
  have samePresentation : renderer.catalogue.presentation
      (Node.typeOf (Table.insert fields "children" (.array items))) =
        .container primitive := by
    rwa [Node.typeOf_insert (by decide)]
  have sameElement : renderer.containerElement primitive
      (Table.insert fields "children" (.array items)) path =
        renderer.containerElement primitive fields path := by
    unfold containerElement
    rw [Node.typeOf_insert (by decide), Node.recordField_insert (by decide),
      Node.recordField_insert (by decide)]
    rfl
  rw [Value.withChildren, visit_container samePresentation, sameElement,
    Node.childrenOf_insert]

/-- Exchanging a component inside another one exchanges its element, or fails as the new
component does. -/
theorem visit_replaceDescendant (replacement : Value)
    (found : renderer.catalogue.descendant? raw below = some node)
    (visible : below.length ≤ levels)
    (yielded : (renderer.visit levels raw path).outcome = .ok element) :
    (renderer.visit levels (raw.replaceDescendant below replacement) path).outcome =
      (renderer.visit (levels - below.length) replacement
        (path ++ pathOf below)).outcome.map (element.replaceDescendant below) := by
  induction below generalizing levels raw path element with
  | nil =>
      rw [pathOf_nil, List.append_nil, List.length_nil, Nat.sub_zero,
        Value.replaceDescendant_nil]
      cases (renderer.visit levels replacement path).outcome <;> rfl
  | cons index below ih =>
      obtain ⟨child, atIndex, foundBelow⟩ := Catalogue.descendant?_cons_eq_some_iff.1 found
      obtain ⟨fields, rfl, container⟩ :=
        Catalogue.eq_object_of_mem_inner (List.mem_of_getElem? atIndex)
      obtain ⟨primitive, presented⟩ := Catalogue.isContainer_iff.1 container
      obtain ⟨levels, rfl⟩ : ∃ fewer, levels = fewer + 1 :=
        Nat.exists_eq_add_one.2 (Nat.lt_of_lt_of_le (Nat.succ_pos _) visible)
      obtain ⟨childElement, childAt, childYielded⟩ := exists_child atIndex yielded
      have childExchanged := ih foundBelow (Nat.le_of_succ_le_succ visible) childYielded
      rw [visit_container presented, Report.outcome_counted,
        Report.outcome_map_eq_ok_iff] at yielded
      obtain ⟨children, drawn, rfl⟩ := yielded
      rw [Catalogue.inner_object container] at atIndex
      have changed := (renderEach_eq_ok_iff.1 drawn).outcome_modify
        (fun child => child.replaceDescendant below replacement)
        (fun childElement fresh => childElement.replaceDescendant below fresh)
        atIndex childAt (by rwa [Nat.zero_add])
      rw [Value.replaceDescendant, visit_withChildren _ presented, Report.outcome_counted,
        Report.outcome_map, Value.children, changed, List.length_cons, Nat.add_sub_add_right,
        List.append_assoc, List.singleton_append, ← pathOf_cons]
      cases (renderer.visit (levels - below.length) replacement
        (path ++ pathOf (index :: below))).outcome <;> rfl

/-- Exchanging a component of a page exchanges its element in the tree, or fails as the
new component does. -/
theorem Renders.replaceComponent (replacement : Value) (rendered : renderer.Renders page tree)
    (found : renderer.catalogue.componentAt? page position = some node)
    (visible : position.length ≤ renderer.maxDepth + 1) :
    ∃ report, renderer.renderPage (page.replaceComponent position replacement) = .ok report ∧
      report.outcome = (renderer.render replacement (pathOf position)).outcome.map
        (tree.replaceDescendant position) := by
  cases position with
  | nil => cases found
  | cons index below =>
      obtain ⟨top, atIndex, foundBelow⟩ := Catalogue.componentAt?_cons_eq_some_iff.1 found
      have listed := Catalogue.components_ne_nil_of_componentAt? found
      obtain ⟨children, rfl, drawn⟩ := (renders_iff_of_components_ne_nil listed).1 rendered
      obtain ⟨topElement, topAt, topYielded⟩ := drawn.2 index top atIndex
      have topExchanged := visit_replaceDescendant replacement foundBelow
        (Nat.le_of_succ_le_succ visible) topYielded
      have changed := drawn.outcome_modify (fun top => top.replaceDescendant below replacement)
        (fun topElement fresh => topElement.replaceDescendant below fresh)
        atIndex topAt topExchanged
      have stillListed : (page.replaceComponent (index :: below) replacement).components =
          page.components.modify index fun top =>
            top.replaceDescendant below replacement :=
        Value.components_withComponents _ listed
      have listedAfter : (page.replaceComponent (index :: below) replacement).components ≠ [] := by
        simpa [stillListed] using listed
      obtain ⟨report, reported, outcome⟩ := renderer.renderPage_of_components_ne_nil listedAfter
      refine ⟨report, reported, ?_⟩
      rw [outcome, Report.outcome_map, stillListed, renderChildren, List.length_nil,
        Nat.sub_zero, changed, render_pathOf, List.length_cons, Nat.add_sub_add_right,
        Nat.zero_add, List.nil_append, List.singleton_append, ← pathOf_cons]
      cases (renderer.visit (renderer.maxDepth - below.length) replacement
        (pathOf (index :: below))).outcome <;> rfl

end PageTree.Renderer
