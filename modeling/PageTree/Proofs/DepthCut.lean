import PageTree.Proofs.Addressing
import PageTree.Proofs.Course

/-!
# Cutting at a depth

A lower limit on nesting changes a tree in one way only: the elements of the components
one level below the limit become notices, unless they are notices of malformed
components already (`Element.cut`).  What is above stays as it was, and what was
below is gone.

The induction is on the levels that the deeper walk has left.  The walk with fewer
levels sees the same components until its own levels are used up.
-/

namespace PageTree

/-- The key of the message in a page that is a placeholder as a whole. -/
def messageKey : String := Renderer.pageKey ++ "/message"

theorem getLast?_messageKey : messageKey.toList.getLast? = some 'e' := by decide

theorem identityKey_ne_messageKey (type : String) (path : Path) :
    identityKey type path ≠ messageKey :=
  identityKey_ne_of_getLast? type path getLast?_messageKey (by decide)

/-- The notice in place of a component that is nested too deeply: an area with a label,
without a style or properties of its own. -/
def depthNotice (theme : Theme) (key : String) : Element :=
  { primitive := Primitive.view
    key
    style := []
    props := []
    children :=
      [{ primitive := Primitive.text
         key := labelKey key
         style := theme.base "fallbackText"
         text := some "Component nesting too deep" }]
    placeholder := some .depthExceeded }

namespace Element

variable {element found : Element} {theme : Theme} {levels : Nat} {others : List String}

/-- Whether an element is a label or the message of a page, and not the element of a
component or of the page itself. -/
def isCaption (element : Element) : Bool :=
  element.isLabel || element.key == messageKey

/-- The tree with notices in place of the components that stand so many levels below
its top.  Labels and messages are no components, and the notice of a malformed
component says more than that of depth. -/
def cut (theme : Theme) : Nat → Element → Element
  | 0, element =>
      if element.placeholder = some .malformedNode then element
      else depthNotice theme element.key
  | levels + 1, element =>
      { element with
        children := element.children.map fun child =>
          if child.isCaption then child else child.cut theme levels }

/-- Nothing is cut from an element when nothing is from its children. -/
theorem cut_succ_eq_self
    (kept : ∀ child ∈ element.children, child.isCaption = false →
      child.cut theme levels = child) : element.cut theme (levels + 1) = element := by
  have same : element.children.map (fun child =>
      if child.isCaption then child else child.cut theme levels) = element.children := by
    conv => rhs; rw [← List.map_id element.children]
    apply List.map_congr_left
    intro child member
    cases caption : child.isCaption with
    | true => rfl
    | false => exact kept child member caption
  rw [cut, same]
  cases element
  rfl

/-- Nothing is cut from an element in which no component stands so deep. -/
theorem cut_eq_self (node : element.isCaption = false)
    (shallow : ∀ position found, position.length = levels →
      element.descendant? position = some found → found.isCaption = true) :
    element.cut theme levels = element := by
  induction levels generalizing element with
  | zero =>
      have caption := shallow [] element rfl descendant?_nil
      rw [node] at caption
      cases caption
  | succ levels ih =>
      apply cut_succ_eq_self
      intro child member childNode
      obtain ⟨index, atIndex⟩ := List.mem_iff_getElem?.1 member
      apply ih childNode
      intro position found length reached
      apply shallow (index :: position) found (congrArg Nat.succ length)
      rw [descendant?_cons, atIndex]
      exact reached

/-- Above the cut every element keeps all its own fields. -/
theorem outline_cut {position : List Nat} (above : position.length < levels) :
    ((element.cut theme levels).descendant? position).map outline =
      (element.descendant? position).map outline := by
  induction position generalizing element levels with
  | nil =>
      obtain ⟨levels, rfl⟩ := Nat.exists_eq_add_one.2 above
      rw [descendant?_nil, descendant?_nil, cut]
      rfl
  | cons index position ih =>
      obtain ⟨levels, rfl⟩ := Nat.exists_eq_add_one.2 (Nat.zero_lt_of_lt above)
      rw [descendant?_cons, descendant?_cons, cut, List.getElem?_map]
      cases element.children[index]? with
      | none => rfl
      | some child =>
          rw [Option.map_some, Option.bind_some, Option.bind_some]
          split
          · rfl
          · exact ih (Nat.lt_of_succ_lt_succ above)

/-- The keys of the children come behind the key of the element. -/
theorem key_mem_of_mem_children {first : String} {others : List String} {child : Element}
    (keys : element.keys = first :: others) (member : child ∈ element.children) :
    child.key ∈ others := by
  rw [keys_eq] at keys
  rw [← (List.cons.inj keys).2, List.mem_flatMap]
  refine ⟨child, member, ?_⟩
  rw [keys_eq]
  exact List.mem_cons_self

/-- Nothing is cut from the element of a leaf or a notice. -/
theorem IsPlain.cut_succ {key : String} (plain : element.IsPlain key) :
    element.cut theme (levels + 1) = element := by
  apply cut_succ_eq_self
  intro child member node
  rcases plain with alone | labelled
  · cases key_mem_of_mem_children alone member
  · have same := List.mem_singleton.1 (key_mem_of_mem_children labelled member)
    simp [isCaption, isLabel, same] at node

end Element

namespace Renderer

variable {renderer : Renderer} {levels fewer limit : Nat} {raw page : Value} {path : Path}
variable {start : Nat} {element tree : Element} {elements : List Element}
variable {raws : List Value} {type : String} {props style payload : Record}

/-- The same renderer with another limit on nesting. -/
def limitedTo (renderer : Renderer) (limit : Nat) (positive : 0 < limit) : Renderer :=
  { renderer with maxDepth := limit, maxDepth_pos := positive }

/-! ## The walk with fewer levels -/

/-- The element of a component is no caption. -/
theorem isCaption_of_visit (yielded : (renderer.visit levels raw path).outcome = .ok element) :
    element.isCaption = false := by
  have unlabelled : element.isLabel = false := by
    rw [Element.isLabel, visit_key yielded, isLabelKey_identityKey]
  have noMessage : (element.key == messageKey) = false := by
    rw [visit_key yielded, beq_eq_false_iff_ne]
    exact identityKey_ne_messageKey _ _
  rw [Element.isCaption, unlabelled, noMessage]
  rfl

/-- Leaves are not reported as malformed components. -/
theorem presentLeaf_placeholder_ne
    (yielded : (renderer.presentLeaf type props style payload path).outcome = .ok element) :
    element.placeholder ≠ some .malformedNode := by
  cases leafElement_of_presentLeaf yielded with
  | text _ placeholder flaw =>
      rintro rfl
      cases flaw _ rfl
  | _ => simp

/-- Only malformed components are. -/
theorem visit_placeholder_ne
    (shape : ∀ kind, Node.ofValue renderer.catalogue.isContainer raw ≠ .malformed kind)
    (yielded : (renderer.visit levels raw path).outcome = .ok element) :
    element.placeholder ≠ some .malformedNode := by
  have spec := renderer.visit_spec levels raw path
  generalize renderer.visit levels raw path = report at spec yielded
  cases spec with
  | malformed _ malformed => exact absurd malformed (shape _)
  | tooDeep =>
      cases yielded
      simp [notice]
  | container _ presented =>
      rw [Report.outcome_counted, Report.outcome_map_eq_ok_iff] at yielded
      obtain ⟨children, -, rfl⟩ := yielded
      simp [containerElement]
  | leaf => exact presentLeaf_placeholder_ne yielded

/-- The elements drawn in another way are changed one by one. -/
theorem Drawn.map {renderOne renderOther : Value → Path → Report Element}
    {change : Element → Element}
    (each : ∀ raw path element, (renderOne raw path).outcome = .ok element →
      (renderOther raw path).outcome = .ok (change element))
    (drawn : Drawn renderOne path start raws elements) :
    Drawn renderOther path start raws (elements.map change) := by
  refine ⟨by simpa using drawn.1, ?_⟩
  intro index raw atIndex
  obtain ⟨element, elementAt, yielded⟩ := drawn.2 index raw atIndex
  exact ⟨change element, by simp [elementAt], each raw _ element yielded⟩

/-- Where the walk with fewer levels ends, it yields a notice. -/
theorem visit_cut_zero (positive : 0 < limit)
    (yielded : (renderer.visit levels raw path).outcome = .ok element) :
    ((renderer.limitedTo limit positive).visit 0 raw path).outcome =
      .ok (element.cut renderer.theme 0) := by
  by_cases malformed : ∃ kind,
      Node.ofValue renderer.catalogue.isContainer raw = .malformed kind
  · obtain ⟨kind, shape⟩ := malformed
    rw [renderer.visit_of_malformed shape] at yielded
    cases yielded
    exact congrArg Report.outcome ((renderer.limitedTo limit positive).visit_of_malformed shape)
  · have shape := not_exists.1 malformed
    have ended : ((renderer.limitedTo limit positive).visit 0 raw path).outcome =
        .ok (depthNotice renderer.theme
          (identityKey (renderer.catalogue.typeOf raw) path)) :=
      congrArg Report.outcome ((renderer.limitedTo limit positive).visit_zero shape)
    rw [ended, Element.cut, if_neg (visit_placeholder_ne shape yielded), visit_key yielded]

/-- A walk with fewer levels yields what a walk with more levels does, cut at the level
where the former ends. -/
theorem visit_cut (positive : 0 < limit)
    (yielded : (renderer.visit levels raw path).outcome = .ok element)
    (fewer_le : fewer ≤ levels) :
    ((renderer.limitedTo limit positive).visit fewer raw path).outcome =
      .ok (element.cut renderer.theme fewer) := by
  induction fewer generalizing levels raw path element with
  | zero => exact visit_cut_zero positive yielded
  | succ fewer ih =>
      obtain ⟨levels, rfl⟩ : ∃ others, levels = others + 1 :=
        Nat.exists_eq_add_one.2 (Nat.lt_of_lt_of_le (Nat.succ_pos _) fewer_le)
      have spec := renderer.visit_spec (levels + 1) raw path
      generalize renderer.visit (levels + 1) raw path = report at spec yielded
      cases spec with
      | malformed _ shape =>
          cases yielded
          rw [(isPlain_notice _ _ _).cut_succ]
          exact congrArg Report.outcome
            ((renderer.limitedTo limit positive).visit_of_malformed shape)
      | leaf _ shape =>
          have plain := isPlain_presentLeaf yielded
          have same : ((renderer.limitedTo limit positive).visit (fewer + 1) raw path).outcome =
              (renderer.presentLeaf _ _ _ _ path).counted.outcome :=
            congrArg Report.outcome ((renderer.limitedTo limit positive).visit_of_leaf shape)
          rw [plain.cut_succ, same]
          exact yielded
      | container _ presented =>
          rw [Report.outcome_counted, Report.outcome_map_eq_ok_iff] at yielded
          obtain ⟨children, rendered, rfl⟩ := yielded
          have each : ∀ raw path child, (renderer.visit levels raw path).outcome = .ok child →
              ((renderer.limitedTo limit positive).visit fewer raw path).outcome =
                .ok (if child.isCaption then child else child.cut renderer.theme fewer) := by
            intro raw path child childYielded
            rw [if_neg (by simp [isCaption_of_visit childYielded])]
            exact ih childYielded (Nat.le_of_succ_le_succ fewer_le)
          have drawn := (renderEach_eq_ok_iff.1 rendered).map each
          have cutting : ((renderer.limitedTo limit positive).visit (fewer + 1)
              (.object _) path).outcome = _ :=
            congrArg Report.outcome (visit_container presented)
          rw [cutting, Report.outcome_counted, Report.outcome_map_eq_ok_iff]
          exact ⟨_, renderEach_eq_ok_iff.2 drawn, rfl⟩

/-! ## Pages -/

theorem renderMissing_limitedTo (positive : 0 < limit) :
    (renderer.limitedTo limit positive).renderMissing = renderer.renderMissing := rfl

theorem renderEmpty_limitedTo (positive : 0 < limit) :
    (renderer.limitedTo limit positive).renderEmpty = renderer.renderEmpty := rfl

/-- The limit does not concern a page without components. -/
theorem renderPage_limitedTo_of_unlisted (positive : 0 < limit)
    (unlisted : page.components = []) :
    (renderer.limitedTo limit positive).renderPage page = renderer.renderPage page := by
  rcases renderPage_of_unlisted unlisted with scalar | missing | empty | ⟨kind, invalid⟩
  · rw [renderPage_of_isScalar scalar, renderPage_of_isScalar scalar]
  · rw [missing, missing, renderMissing_limitedTo]
  · rw [empty, empty, renderEmpty_limitedTo]
  · rw [invalid, invalid, renderEmpty_limitedTo]

/-- The tree of a page without components is a message alone. -/
theorem Renders.keys_of_unlisted (rendered : renderer.Renders page tree)
    (unlisted : page.components = []) : tree.keys = [pageKey, messageKey] := by
  obtain ⟨report, found, yielded⟩ := rendered
  obtain ⟨other, notice, same, noticed, keys⟩ :=
    renderer.renderPage_of_components_eq_nil (isScalar_eq_false_of_renderPage found) unlisted
  obtain rfl : report = other := Except.ok.inj (found.symm.trans same)
  obtain rfl : tree = notice := Except.ok.inj (yielded.symm.trans noticed)
  exact keys

/-- Nothing is cut from a page without components. -/
theorem Renders.cut_of_unlisted (rendered : renderer.Renders page tree)
    (unlisted : page.components = []) :
    tree.cut renderer.theme (levels + 1) = tree := by
  apply Element.cut_succ_eq_self
  intro child member node
  have message := List.mem_singleton.1
    (Element.key_mem_of_mem_children (rendered.keys_of_unlisted unlisted) member)
  simp [Element.isCaption, message] at node

/-- With a lower limit a page is rendered to the tree cut at that limit. -/
theorem Renders.cut (rendered : renderer.Renders page tree) (positive : 0 < limit)
    (lower : limit ≤ renderer.maxDepth) :
    (renderer.limitedTo limit positive).Renders page
      (tree.cut renderer.theme (limit + 1)) := by
  by_cases unlisted : page.components = []
  · rw [rendered.cut_of_unlisted unlisted, Renders,
      renderPage_limitedTo_of_unlisted positive unlisted]
    exact rendered
  · obtain ⟨children, rfl, drawn⟩ := (renders_iff_of_components_ne_nil unlisted).1 rendered
    have each : ∀ raw path child,
        (renderer.visit renderer.maxDepth raw path).outcome = .ok child →
        ((renderer.limitedTo limit positive).visit limit raw path).outcome =
          .ok (if child.isCaption then child else child.cut renderer.theme limit) := by
      intro raw path child yielded
      rw [if_neg (by simp [isCaption_of_visit yielded])]
      exact visit_cut positive yielded lower
    rw [renders_iff_of_components_ne_nil unlisted]
    exact ⟨_, rfl, drawn.map each⟩

theorem Renders.key_eq (rendered : renderer.Renders page tree) : tree.key = pageKey := by
  by_cases unlisted : page.components = []
  · have keys := rendered.keys_of_unlisted unlisted
    rw [Element.keys_eq] at keys
    exact (List.cons.inj keys).1
  · obtain ⟨children, rfl, -⟩ := (renders_iff_of_components_ne_nil unlisted).1 rendered
    rfl

/-- The page itself is no caption. -/
theorem Renders.isCaption_eq_false (rendered : renderer.Renders page tree) :
    tree.isCaption = false := by
  rw [Element.isCaption, Element.isLabel, rendered.key_eq]
  decide

/-- The limits of one renderer.  Let a page be rendered to a tree, and take a limit that
is not higher.  With this limit the page is rendered to the same tree, but for the
elements of components whose positions have one index more than the limit: these, if
they are not notices of malformed components, become the notice of depth under their
own key.  Elements above keep all their own fields, and if there are no elements of
components at that level, the trees are the same. -/
theorem renders_limitedTo (rendered : renderer.Renders page tree) (positive : 0 < limit)
    (lower : limit ≤ renderer.maxDepth) :
    (renderer.limitedTo limit positive).Renders page
        (tree.cut renderer.theme (limit + 1)) ∧
      (∀ position, position.length ≤ limit →
        ((tree.cut renderer.theme (limit + 1)).descendant? position).map Element.outline =
          (tree.descendant? position).map Element.outline) ∧
      ((∀ position element, position.length = limit + 1 →
        tree.descendant? position = some element → element.isCaption = true) →
        (renderer.limitedTo limit positive).Renders page tree) := by
  have rendersCut := rendered.cut positive lower
  refine ⟨rendersCut, ?_, ?_⟩
  · intro position above
    exact Element.outline_cut (Nat.lt_succ_of_le above)
  · intro shallow
    rwa [Element.cut_eq_self rendered.isCaption_eq_false shallow] at rendersCut

/-- A container, null and a button below a container, with a limit of one: the tree is
that of a higher limit, cut at the second level. -/
theorem renders_limitedTo_one :
    let renderer : Renderer :=
      ⟨Theme.standard, Catalogue.standard, Host.none, 3, Nat.succ_pos 2⟩
    let page : Value := .array [.string "first", .object [("type", .string "container"),
      ("children", .array [.object [("type", .string "container"),
        ("children", .array [.string "deep"])], .null,
        .object [("type", .string "button")]])]]
    0 < 1 ∧ 1 ≤ renderer.maxDepth ∧ ∃ tree, renderer.Renders page tree ∧
      (renderer.limitedTo 1 Nat.one_pos).Renders page (tree.cut Theme.standard 2) := by
  intro renderer page
  have lower : 1 ≤ renderer.maxDepth := by decide
  have described : page.isScalar = false := rfl
  obtain ⟨tree, rendered⟩ := renderer.exists_renders described (by rfl)
  exact ⟨Nat.one_pos, lower, tree, rendered,
    (renders_limitedTo rendered Nat.one_pos lower).1⟩

end Renderer

end PageTree
