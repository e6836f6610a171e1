import PageTree.Proofs.Failure
import PageTree.Proofs.Images

/-!
# What themes and hosts decide

Themes decide styles and hosts decide what presses do; everything else about a rendered
page comes from the page, the catalogue and the limit on nesting.  Two renderers with the
same catalogue and limit therefore differ at most in what they cannot share.

A tree is compared through a view of its styles, and without its triggers
(`Element.seenAs`).  One induction over the walk serves every view: if the records of two
renderers look alike where the walk takes them from the themes (`Renderer.LooksLike`), the
rendered pages look alike, with all counts, events and failures
(`Renderer.LooksLike.map_renderPage`).  Nothing is seen of a style by the view that blanks
all styles, so all themes look alike to it; the view that changes no style tells apart only
themes that differ at a name the walk asks for.
-/

namespace PageTree

/-! ## Views of a tree -/

namespace Element

mutual

/-- The tree with a view in place of every style, and without triggers. -/
def seenAs (look : Record → Record) : Element → Element
  | ⟨primitive, key, style, props, text, source, children, placeholder, action, _⟩ =>
      ⟨primitive, key, look style, props, text, source, allSeenAs look children, placeholder,
        action, none⟩
termination_by structural element => element

/-- `seenAs` for several trees. -/
def allSeenAs (look : Record → Record) : List Element → List Element
  | [] => []
  | element :: rest => element.seenAs look :: allSeenAs look rest
termination_by structural elements => elements

end

/-- The tree with empty styles and without triggers. -/
def unstyled (element : Element) : Element :=
  element.seenAs fun _ => []

/-- The tree without triggers. -/
def untriggered (element : Element) : Element :=
  element.seenAs id

variable {look : Record → Record} {element : Element}

theorem allSeenAs_eq_map (elements : List Element) :
    allSeenAs look elements = elements.map (seenAs look) := by
  induction elements with
  | nil => rfl
  | cons element rest ih => rw [allSeenAs, ih, List.map_cons]

mutual

/-- The plain data of a tree shows no triggers. -/
theorem toValue_untriggered (element : Element) :
    (element.seenAs id).toValue = element.toValue := by
  obtain ⟨primitive, key, style, props, text, source, children, placeholder, action, onPress⟩ :=
    element
  rw [seenAs, toValue, toValue, toValues_untriggered children]
  rfl
termination_by structural element

theorem toValues_untriggered (elements : List Element) :
    toValues (allSeenAs id elements) = toValues elements := by
  cases elements with
  | nil => rfl
  | cons element rest =>
      rw [allSeenAs, toValues, toValues, toValue_untriggered element, toValues_untriggered rest]
termination_by structural elements

end

/-- Trees that differ in their triggers only have the same text. -/
theorem dump_eq_of_untriggered {other : Element}
    (same : element.untriggered = other.untriggered) (indent : Int) :
    element.dump indent = other.dump indent := by
  rw [dump, ← toValue_untriggered element, dump, ← toValue_untriggered other]
  exact congrArg (fun tree => Json.dump (toValue tree) indent) same

end Element

/-! ## Renderers that look alike -/

namespace Catalogue

/-- Two catalogues with the same presentations and fallback, in whatever order the types
were registered. -/
structure SameContents (left right : Catalogue) : Prop where
  presentations : ∀ tag, left.presentations.get? tag = right.presentations.get? tag
  fallback : left.fallback = right.fallback

variable {left right : Catalogue}

theorem SameContents.presentation_eq (same : left.SameContents right) :
    left.presentation = right.presentation := by
  funext tag
  rw [presentation, same.presentations, same.fallback, presentation]

theorem SameContents.contains_eq (same : left.SameContents right) :
    left.contains = right.contains := by
  funext tag
  rw [contains, Table.contains, same.presentations, contains, Table.contains]

end Catalogue

namespace Renderer

/-- Two renderers of the same catalogue and limit whose themes look alike to a view, at
every place where the walk takes a style from them. -/
structure LooksLike (look : Record → Record) (left right : Renderer) : Prop where
  presentation : left.catalogue.presentation = right.catalogue.presentation
  maxDepth : left.maxDepth = right.maxDepth
  base : ∀ name ∈ Theme.chrome, look (left.theme.base name) = look (right.theme.base name)
  styleOf : ∀ node, look (left.styleOf node) = look (right.styleOf node)
  imageStyle : ∀ node,
    look (mergeStyle (left.styleOf node) (left.theme.base "imagePlaceholder")) =
      look (mergeStyle (right.styleOf node) (right.theme.base "imagePlaceholder"))

namespace LooksLike

variable {look : Record → Record} {left right : Renderer} {levels : Nat} {path : Path}
variable {raw : Value}

theorem isContainer_eq (alike : LooksLike look left right) :
    left.catalogue.isContainer = right.catalogue.isContainer := by
  funext type
  rw [Catalogue.isContainer, alike.presentation, Catalogue.isContainer]

theorem fallbackLabel (alike : LooksLike look left right) (key text : String) :
    (left.fallbackLabel key text).seenAs look = (right.fallbackLabel key text).seenAs look := by
  simp only [Renderer.fallbackLabel, Element.seenAs, alike.base "fallbackText" (by decide)]

theorem notice (alike : LooksLike look left right) (key text : String) (defect : Defect) :
    (left.notice key text defect).seenAs look = (right.notice key text defect).seenAs look := by
  simp only [Renderer.notice, Element.seenAs, Element.allSeenAs, alike.fallbackLabel]

theorem containerElement (alike : LooksLike look left right) (primitive : String)
    (fields : Record) {children others : List Element}
    (same : children.map (Element.seenAs look) = others.map (Element.seenAs look)) :
    (left.containerElement primitive fields path children).seenAs look =
      (right.containerElement primitive fields path others).seenAs look := by
  simp only [Renderer.containerElement, Element.seenAs, Element.allSeenAs_eq_map, alike.styleOf,
    same]

theorem pageElement (alike : LooksLike look left right) {children others : List Element}
    (same : children.map (Element.seenAs look) = others.map (Element.seenAs look)) :
    (left.pageElement children).seenAs look = (right.pageElement others).seenAs look := by
  simp only [Renderer.pageElement, Element.seenAs, Element.allSeenAs_eq_map,
    alike.base "page" (by decide), same]

theorem map_presentLabel (alike : LooksLike look left right) (key : String) (payload : Record) :
    (left.presentLabel key payload).map (Element.seenAs look) =
      (right.presentLabel key payload).map (Element.seenAs look) := by
  apply Report.map_reading_congr
  intro text
  cases text with
  | none =>
      simp only [map_flagged, Element.seenAs, alike.base "buttonText" (by decide)]
  | some text =>
      simp only [Report.map_result, Element.seenAs, alike.base "buttonText" (by decide)]

/-- Leaves look alike. -/
theorem map_presentLeaf (alike : LooksLike look left right) (type : String)
    (props style payload : Record) :
    (left.presentLeaf type props style payload path).map (Element.seenAs look) =
      (right.presentLeaf type props style payload path).map (Element.seenAs look) := by
  unfold presentLeaf
  rw [alike.presentation]
  have sameStyle := alike.styleOf (.leaf type props style payload)
  cases right.catalogue.presentation type with
  | container primitive => rfl
  | text =>
      apply Report.map_reading_congr
      intro content
      cases content with
      | none => simp only [map_flagged, Element.seenAs, sameStyle]
      | some content => simp only [Report.map_result, Element.seenAs, sameStyle]
  | image =>
      apply Report.map_reading_congr
      intro source
      cases Host.given? source with
      | none => simp only [map_flagged, Element.seenAs, alike.imageStyle]
      | some source => simp only [Report.map_result, Element.seenAs, sameStyle]
  | button =>
      simp only [presentButton, Report.map_map]
      refine Report.map_eq_map (alike.map_presentLabel _ payload) ?_
      intro label otherLabel sameLabel
      simp only [Function.comp_apply, Element.seenAs, Element.allSeenAs, sameLabel, sameStyle]
  | fallback =>
      simp only [presentFallback, map_flagged, Element.seenAs, Element.allSeenAs, sameStyle,
        alike.fallbackLabel]

theorem map_visit_of_malformed (alike : LooksLike look left right) {kind : String}
    (shape : Node.ofValue left.catalogue.isContainer raw = .malformed kind) :
    (left.visit levels raw path).map (Element.seenAs look) =
      (right.visit levels raw path).map (Element.seenAs look) := by
  have otherShape : Node.ofValue right.catalogue.isContainer raw = .malformed kind := by
    rw [← alike.isContainer_eq, shape]
  rw [left.visit_of_malformed shape, right.visit_of_malformed otherShape, Report.map_counted,
    Report.map_counted, map_flagged, map_flagged, alike.notice]

/-- Components look alike wherever they are rendered. -/
theorem map_visit (alike : LooksLike look left right) :
    (left.visit levels raw path).map (Element.seenAs look) =
      (right.visit levels raw path).map (Element.seenAs look) := by
  induction levels generalizing raw path with
  | zero =>
      cases component : raw.isComponent with
      | false =>
          exact alike.map_visit_of_malformed (Node.ofValue_eq_malformed_iff.2 ⟨component, rfl⟩)
      | true =>
          have sameType : left.catalogue.typeOf raw = right.catalogue.typeOf raw := by
            rw [Catalogue.typeOf, alike.isContainer_eq, Catalogue.typeOf]
          rw [left.visit_zero (Node.isComponent_iff.1 component),
            right.visit_zero (Node.isComponent_iff.1 component), sameType, alike.maxDepth]
          simp only [Report.map_counted, Report.map_reporting, map_flagged, alike.notice]
  | succ levels ih =>
      cases shape : Node.ofValue left.catalogue.isContainer raw with
      | malformed kind => exact alike.map_visit_of_malformed shape
      | leaf type props style payload =>
          have otherShape := alike.isContainer_eq ▸ shape
          rw [left.visit_of_leaf shape, right.visit_of_leaf otherShape, Report.map_counted,
            Report.map_counted, alike.map_presentLeaf]
      | container type props style children =>
          obtain ⟨fields, rfl, container⟩ := Node.eq_object_of_ofValue_container shape
          obtain ⟨primitive, presented⟩ := Catalogue.isContainer_iff.1 container
          have otherPresented := alike.presentation ▸ presented
          rw [visit_container presented, visit_container otherPresented]
          simp only [Report.map_counted, Report.map_map]
          congr 1
          exact Report.map_eq_map (map_renderEach_congr fun _ _ => ih)
            fun _ _ => alike.containerElement primitive fields

theorem map_pageNotice (alike : LooksLike look left right) {containerStyle textStyle : String}
    (text : String) (defect : Defect) (container : containerStyle ∈ Theme.chrome)
    (label : textStyle ∈ Theme.chrome) :
    (left.pageNotice containerStyle textStyle text defect).map (Element.seenAs look) =
      (right.pageNotice containerStyle textStyle text defect).map (Element.seenAs look) := by
  simp only [pageNotice, map_flagged, Element.seenAs, Element.allSeenAs,
    alike.base containerStyle container, alike.base textStyle label]

theorem map_renderMissing (alike : LooksLike look left right) :
    left.renderMissing.map (Element.seenAs look) =
      right.renderMissing.map (Element.seenAs look) := by
  rw [renderMissing, map_concluding, alike.map_pageNotice _ _ (by decide) (by decide),
    renderMissing, map_concluding]

theorem map_renderEmpty (alike : LooksLike look left right) :
    left.renderEmpty.map (Element.seenAs look) =
      right.renderEmpty.map (Element.seenAs look) := by
  rw [renderEmpty, map_concluding, alike.map_pageNotice _ _ (by decide) (by decide),
    renderEmpty, map_concluding]

theorem map_renderComponents (alike : LooksLike look left right) (components : List Value) :
    (left.renderComponents components).map (Element.seenAs look) =
      (right.renderComponents components).map (Element.seenAs look) := by
  cases components with
  | nil => exact alike.map_renderEmpty
  | cons first rest =>
      have inside : (left.renderChildren (first :: rest) []).map (List.map (Element.seenAs look)) =
          (right.renderChildren (first :: rest) []).map (List.map (Element.seenAs look)) := by
        rw [renderChildren, renderChildren, alike.maxDepth]
        exact map_renderEach_congr fun _ _ => alike.map_visit
      have sameVisited : (left.renderChildren (first :: rest) []).visited =
          (right.renderChildren (first :: rest) []).visited :=
        (congrArg Report.visited inside :)
      have samePlaceholders : (left.renderChildren (first :: rest) []).placeholderCount =
          (right.renderChildren (first :: rest) []).placeholderCount :=
        (congrArg Report.placeholderCount inside :)
      simp only [renderComponents, map_concluding, Report.map_map, sameVisited,
        samePlaceholders]
      congr 1
      exact Report.map_eq_map inside fun _ _ => alike.pageElement

/-- Descriptors are rendered to pages that look alike. -/
theorem map_renderDescriptor (alike : LooksLike look left right) (descriptor : Descriptor) :
    (left.renderDescriptor descriptor).map (Element.seenAs look) =
      (right.renderDescriptor descriptor).map (Element.seenAs look) := by
  cases descriptor with
  | missing => exact alike.map_renderMissing
  | list components => exact alike.map_renderComponents components
  | object fields =>
      simp only [renderDescriptor]
      cases Table.get? fields "components" with
      | none => exact alike.map_renderEmpty
      | some value =>
          cases value with
          | null => exact alike.map_renderEmpty
          | array components => exact alike.map_renderComponents components
          | _ => exact congrArg (Report.reporting _) alike.map_renderEmpty

/-- Pages look alike. -/
theorem map_renderPage (alike : LooksLike look left right) (page : Value) :
    (left.renderPage page).map (Report.map (Element.seenAs look)) =
      (right.renderPage page).map (Report.map (Element.seenAs look)) := by
  unfold renderPage
  cases Descriptor.ofValue? page with
  | error reason => rfl
  | ok descriptor => exact congrArg Except.ok (alike.map_renderDescriptor descriptor)

/-- The trees of a page look alike. -/
theorem seenAs_eq (alike : LooksLike look left right) {page : Value} {tree other : Element}
    (rendered : left.Renders page tree) (otherRendered : right.Renders page other) :
    tree.seenAs look = other.seenAs look := by
  obtain ⟨report, found, yielded⟩ := rendered
  obtain ⟨otherReport, otherFound, otherYielded⟩ := otherRendered
  have same := alike.map_renderPage page
  rw [found, otherFound] at same
  have sameOutcome := congrArg Report.outcome (Except.ok.inj same)
  rw [Report.map, Report.map, yielded, otherYielded] at sameOutcome
  exact Except.ok.inj sameOutcome

end LooksLike

/-! ## Themes -/

variable {left right : Renderer}

/-- All themes look alike when styles are blanked. -/
theorem looksLike_blank (sameContents : left.catalogue.SameContents right.catalogue)
    (sameDepth : left.maxDepth = right.maxDepth) : LooksLike (fun _ => []) left right where
  presentation := sameContents.presentation_eq
  maxDepth := sameDepth
  base _ _ := rfl
  styleOf _ := rfl
  imageStyle _ := rfl

/-- Themes are the same to the walk when they agree on the names of chrome and on the
registered types. -/
theorem looksLike_id (sameContents : left.catalogue.SameContents right.catalogue)
    (sameDepth : left.maxDepth = right.maxDepth)
    (sameRecords : ∀ name, name ∈ Theme.chrome ∨ left.catalogue.contains name = true →
      left.theme.base name = right.theme.base name) : LooksLike id left right := by
  have sameStyle : ∀ node, left.styleOf node = right.styleOf node := by
    intro node
    unfold styleOf Theme.resolve
    rw [← sameContents.contains_eq]
    by_cases registered : left.catalogue.contains node.type = true
    · rw [if_pos registered, if_pos registered, sameRecords node.type (.inr registered)]
    · rw [if_neg registered, if_neg registered]
  refine ⟨sameContents.presentation_eq, sameDepth, ?_, sameStyle, ?_⟩
  · intro name member
    exact sameRecords name (.inl member)
  · intro node
    rw [sameStyle, sameRecords "imagePlaceholder" (.inl (by decide))]

/-- Themes and hosts decide nothing about a page but its styles and triggers: two renderers
with the same catalogue and limit render every page with the same failures, counts and
events, to trees that are equal but for their styles and triggers.  The styles are equal
too, and so are the texts of the trees, when the themes agree on the names of chrome and on
the registered types; so with one theme the text is the same for every host. -/
theorem renderPage_eq_but_for_appearance (left right : Renderer)
    (sameContents : left.catalogue.SameContents right.catalogue)
    (sameDepth : left.maxDepth = right.maxDepth) (page : Value) :
    (left.renderPage page).map (Report.map Element.unstyled) =
        (right.renderPage page).map (Report.map Element.unstyled) ∧
      ((∀ name, name ∈ Theme.chrome ∨ left.catalogue.contains name = true →
          left.theme.base name = right.theme.base name) →
        (left.renderPage page).map (Report.map Element.untriggered) =
            (right.renderPage page).map (Report.map Element.untriggered) ∧
          ∀ tree other indent, left.Renders page tree → right.Renders page other →
            tree.dump indent = other.dump indent) := by
  refine ⟨(looksLike_blank sameContents sameDepth).map_renderPage page, ?_⟩
  intro sameRecords
  have alike := looksLike_id sameContents sameDepth sameRecords
  refine ⟨alike.map_renderPage page, ?_⟩
  intro tree other indent rendered otherRendered
  exact Element.dump_eq_of_untriggered (alike.seenAs_eq rendered otherRendered) indent

/-- A theme with a record for a type that is not registered, a capability that always
fails and another order of registration: the text of the tree is the same. -/
theorem dump_eq_with_unregistered_record :
    let left : Renderer := ⟨Theme.standard,
      ⟨[("page", .container Primitive.view), ("image", .image), ("button", .button)], .fallback⟩,
      Host.none, 2, by decide⟩
    let right : Renderer := ⟨Table.insert Theme.standard "card" [("width", .int 3)],
      ⟨[("button", .button), ("page", .container Primitive.view), ("image", .image)], .fallback⟩,
      ⟨[(Host.navigate, some ⟨"go", true⟩)]⟩, 2, by decide⟩
    let page : Value := .array [.object [("type", .string "page"), ("children", .array
      [.object [("type", .string "image")], .object [("type", .string "card")],
        .object [("type", .string "button"), ("action", .string "navigate")]])]]
    left.catalogue.SameContents right.catalogue ∧ left.maxDepth = right.maxDepth ∧
      left.theme.base "card" = [] ∧ right.theme.base "card" = [("width", .int 3)] ∧
      (left.renderPage page).map (Report.map Element.unstyled) =
        (right.renderPage page).map (Report.map Element.unstyled) ∧
      ∃ tree other, left.Renders page tree ∧ right.Renders page other ∧
        tree.dump 2 = other.dump 2 := by
  intro left right page
  have sameContents : left.catalogue.SameContents right.catalogue := by
    refine ⟨?_, rfl⟩
    intro tag
    by_cases isButton : tag = "button"
    · subst isButton
      decide
    · simp [left, right, Table.get?, Ne.symm isButton]
  have sameRecords : ∀ name, name ∈ Theme.chrome ∨ left.catalogue.contains name = true →
      left.theme.base name = right.theme.base name := by
    intro name asked
    have otherName : name ≠ "card" := by
      rintro rfl
      revert asked
      decide
    rw [Theme.base, Theme.base, Table.get?_insert_of_ne _ _ otherName]
  obtain ⟨blank, themed⟩ := renderPage_eq_but_for_appearance left right sameContents rfl page
  obtain ⟨tree, rendered⟩ : ∃ tree, left.Renders page tree := left.exists_renders (by decide) rfl
  obtain ⟨other, otherRendered⟩ : ∃ other, right.Renders page other :=
    right.exists_renders (by decide) rfl
  exact ⟨sameContents, rfl, rfl, rfl, blank, tree, other, rendered, otherRendered,
    (themed sameRecords).2 tree other 2 rendered otherRendered⟩

end Renderer

end PageTree
