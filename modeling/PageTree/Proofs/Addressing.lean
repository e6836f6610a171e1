import Mathlib.Data.List.Nodup
import PageTree.Proofs.Descent
import PageTree.Proofs.Failure
import PageTree.Proofs.Keys

/-!
# Addressing

All keys of a rendered tree are different, so a key addresses one element.  The
keys in the subtree at a path are those of positions at or below that path, each
once, and perhaps followed by the key of a label (`Addressed`); subtrees of
different children therefore share no key.

It follows that looking for the key of a component finds the element at the
position of that component.
-/

namespace PageTree

variable {path other : Path} {key : String} {element found : Element}

/-- A key of a position: that of the element there, or of its label. -/
def OwnKey (path : Path) (key : String) : Prop :=
  ∃ type, key = identityKey type path ∨ key = labelKey (identityKey type path)

/-- A key belongs to one position only. -/
theorem OwnKey.path_eq (here : OwnKey path key) (there : OwnKey other key) : path = other := by
  obtain ⟨type, rfl | rfl⟩ := here
  · obtain ⟨otherType, same | same⟩ := there
    · exact (identityKey_inj.1 same).2
    · exact absurd same (identityKey_ne_labelKey _ _ _)
  · obtain ⟨otherType, same | same⟩ := there
    · exact absurd same.symm (identityKey_ne_labelKey _ _ _)
    · exact (identityKey_inj.1 (labelKey_injective same)).2

theorem OwnKey.ne_pageKey (own : OwnKey path key) : key ≠ Renderer.pageKey := by
  obtain ⟨type, rfl | rfl⟩ := own
  · exact identityKey_ne_pageKey type path
  · exact labelKey_ne_pageKey _

namespace Element

theorem keys_eq (element : Element) :
    element.keys = element.key :: element.children.flatMap keys := by
  unfold keys
  rw [walk_eq, walkAll_eq_flatMap, List.map_cons, List.map_flatMap]

/-- Looking for a key finds the only element that has it. -/
theorem find?_key_of_nodup (distinct : element.keys.Nodup) (member : found ∈ element.walk) :
    element.find? found.key = some found := by
  unfold keys at distinct
  unfold find?
  generalize element.walk = elements at distinct member ⊢
  induction elements with
  | nil => cases member
  | cons head rest ih =>
      rw [List.map_cons, List.nodup_cons] at distinct
      rw [List.find?_cons]
      rcases List.mem_cons.1 member with rfl | later
      · simp
      · have different : head.key ≠ found.key := by
          intro same
          exact distinct.1 (same ▸ List.mem_map_of_mem later)
        simp only [beq_eq_false_iff_ne.2 different]
        exact ih distinct.2 later

/-- Nothing is found under a key that no element has. -/
theorem find?_eq_none_of_notMem (absent : key ∉ element.keys) :
    element.find? key = none := by
  unfold find?
  rw [List.find?_eq_none]
  intro found member
  have different : found.key ≠ key := by
    intro same
    exact absent (same ▸ List.mem_map_of_mem member)
  simpa using different

/-- The element of a leaf or a notice: alone, or with a label. -/
def IsPlain (key : String) (element : Element) : Prop :=
  element.keys = [key] ∨ element.keys = [key, labelKey key]

theorem IsPlain.key_eq (plain : IsPlain key element) : element.key = key := by
  unfold IsPlain at plain
  rw [keys_eq] at plain
  rcases plain with alone | labelled
  · exact (List.cons.inj alone).1
  · exact (List.cons.inj labelled).1

end Element

/-- The keys in the subtree at a path: all different, and each of a position at or
below the path. -/
structure Addressed (path : Path) (element : Element) : Prop where
  below : ∀ key ∈ element.keys, ∃ rest : List Nat, OwnKey (path ++ pathOf rest) key
  distinct : element.keys.Nodup

/-- A plain element has the keys of its own position. -/
theorem Addressed.of_isPlain {type : String}
    (plain : element.IsPlain (identityKey type path)) : Addressed path element := by
  have own : OwnKey path (identityKey type path) := ⟨type, .inl rfl⟩
  have ownLabel : OwnKey path (labelKey (identityKey type path)) := ⟨type, .inr rfl⟩
  rcases plain with alone | labelled
  · constructor
    · rw [alone]
      intro key member
      obtain rfl := List.mem_singleton.1 member
      exact ⟨[], by simpa using own⟩
    · simp [alone]
  · constructor
    · rw [labelled]
      intro key member
      rcases List.mem_cons.1 member with rfl | label
      · exact ⟨[], by simpa using own⟩
      · obtain rfl := List.mem_singleton.1 label
        exact ⟨[], by simpa using ownLabel⟩
    · rw [labelled]
      simpa using identityKey_ne_labelKey type path (identityKey type path)

/-- The keys of the children below a path are all different, and each is of a position
below the path. -/
theorem keys_of_children {children : List Element}
    (addressed : ∀ (index : Nat) child, children[index]? = some child →
      Addressed (path ++ [(index : Int)]) child) :
    (∀ key ∈ children.flatMap Element.keys, ∃ index rest,
      OwnKey (path ++ pathOf (index :: rest)) key) ∧
      (children.flatMap Element.keys).Nodup := by
  constructor
  · intro key member
    obtain ⟨child, childMem, keyMem⟩ := List.mem_flatMap.1 member
    obtain ⟨index, atIndex⟩ := List.mem_iff_getElem?.1 childMem
    obtain ⟨rest, own⟩ := (addressed index child atIndex).below key keyMem
    exact ⟨index, rest, by simpa using own⟩
  · rw [List.nodup_flatMap]
    constructor
    · intro child childMem
      obtain ⟨index, atIndex⟩ := List.mem_iff_getElem?.1 childMem
      exact (addressed index child atIndex).distinct
    · rw [List.pairwise_iff_getElem]
      intro left right leftLt rightLt before key leftMem rightMem
      obtain ⟨leftRest, leftOwn⟩ :=
        (addressed left _ (List.getElem?_eq_getElem leftLt)).below key leftMem
      obtain ⟨rightRest, rightOwn⟩ :=
        (addressed right _ (List.getElem?_eq_getElem rightLt)).below key rightMem
      have paths := leftOwn.path_eq rightOwn
      simp only [List.append_assoc, List.singleton_append, List.append_cancel_left_eq,
        List.cons.injEq] at paths
      omega

/-- An element around children has its own key besides theirs. -/
theorem Addressed.of_children {type : String} (ownKey : element.key = identityKey type path)
    (addressed : ∀ (index : Nat) child, element.children[index]? = some child →
      Addressed (path ++ [(index : Int)]) child) : Addressed path element := by
  obtain ⟨below, distinct⟩ := keys_of_children addressed
  constructor
  · rw [Element.keys_eq, ownKey]
    intro key member
    rcases List.mem_cons.1 member with rfl | inside
    · exact ⟨[], type, .inl (by simp)⟩
    · obtain ⟨index, rest, own⟩ := below key inside
      exact ⟨index :: rest, own⟩
  · rw [Element.keys_eq, ownKey, List.nodup_cons]
    refine ⟨?_, distinct⟩
    intro inside
    obtain ⟨index, rest, own⟩ := below _ inside
    have here : OwnKey path (identityKey type path) := ⟨type, .inl rfl⟩
    have paths := congrArg List.length (here.path_eq own)
    simp at paths

/-! ## Rendered trees -/

namespace Renderer

variable {renderer : Renderer} {levels : Nat} {raw page : Value} {tree : Element}
variable {type : String} {props style payload : Record}

/-- A notice is an element with a label. -/
theorem isPlain_notice (key text : String) (defect : Defect) :
    (renderer.notice key text defect).IsPlain key := .inr rfl

/-- A presented leaf is alone or has a label. -/
theorem isPlain_presentLeaf
    (yielded : (renderer.presentLeaf type props style payload path).outcome = .ok element) :
    element.IsPlain (identityKey type path) := by
  cases leafElement_of_presentLeaf yielded with
  | text | image | imagePlaceholder => exact .inl rfl
  | button | fallback => exact .inr rfl

/-- The element of a component has the key of the component. -/
theorem visit_key (yielded : (renderer.visit levels raw path).outcome = .ok element) :
    element.key = identityKey (renderer.catalogue.typeOf raw) path := by
  have spec := renderer.visit_spec levels raw path
  generalize renderer.visit levels raw path = report at spec yielded
  cases spec with
  | malformed _ shape =>
      cases yielded
      rw [Catalogue.typeOf, shape]
      rfl
  | tooDeep shape =>
      cases yielded
      rfl
  | container levels presented =>
      have container := Catalogue.isContainer_iff.2 ⟨_, presented⟩
      rw [Report.outcome_counted, Report.outcome_map_eq_ok_iff] at yielded
      obtain ⟨children, -, rfl⟩ := yielded
      simp [containerElement, Catalogue.typeOf, Node.ofValue, container, Node.type]
  | leaf levels shape =>
      rw [Catalogue.typeOf, shape]
      exact (isPlain_presentLeaf yielded).key_eq

/-- The keys of a rendered component are those of the positions below its path. -/
theorem visit_addressed (yielded : (renderer.visit levels raw path).outcome = .ok element) :
    Addressed path element := by
  induction levels generalizing raw path element with
  | zero =>
      have spec := renderer.visit_spec 0 raw path
      generalize renderer.visit 0 raw path = report at spec yielded
      cases spec with
      | malformed _ shape =>
          cases yielded
          exact .of_isPlain (isPlain_notice _ _ _)
      | tooDeep shape =>
          cases yielded
          exact .of_isPlain (isPlain_notice _ _ _)
  | succ levels ih =>
      have spec := renderer.visit_spec (levels + 1) raw path
      generalize renderer.visit (levels + 1) raw path = report at spec yielded
      cases spec with
      | malformed _ shape =>
          cases yielded
          exact .of_isPlain (isPlain_notice _ _ _)
      | leaf _ shape => exact .of_isPlain (isPlain_presentLeaf yielded)
      | container _ presented =>
          rw [Report.outcome_counted, Report.outcome_map_eq_ok_iff] at yielded
          obtain ⟨children, drawn, rfl⟩ := yielded
          apply Addressed.of_children rfl
          intro index child atIndex
          obtain ⟨childRaw, -, childYielded⟩ :=
            (renderEach_eq_ok_iff.1 drawn).exists_of_getElem? atIndex
          rw [Nat.zero_add] at childYielded
          exact ih childYielded

namespace Renders

/-- All keys of a page are different. -/
theorem nodup_keys (rendered : renderer.Renders page tree) : tree.keys.Nodup := by
  by_cases unlisted : page.components = []
  · obtain ⟨report, found, yielded⟩ := rendered
    obtain ⟨other, notice, same, noticed, keys⟩ :=
      renderer.renderPage_of_components_eq_nil (isScalar_eq_false_of_renderPage found) unlisted
    obtain rfl : report = other := Except.ok.inj (found.symm.trans same)
    obtain rfl : tree = notice := Except.ok.inj (yielded.symm.trans noticed)
    rw [keys]
    decide
  · obtain ⟨children, rfl, drawn⟩ := (renders_iff_of_components_ne_nil unlisted).1 rendered
    have addressed : ∀ (index : Nat) child, children[index]? = some child →
        Addressed ([] ++ [(index : Int)]) child := by
      intro index child atIndex
      obtain ⟨raw, -, yielded⟩ := drawn.exists_of_getElem? atIndex
      rw [Nat.zero_add] at yielded
      exact visit_addressed yielded
    obtain ⟨below, distinct⟩ := keys_of_children addressed
    rw [Element.keys_eq, List.nodup_cons]
    refine ⟨?_, distinct⟩
    intro inside
    obtain ⟨index, rest, own⟩ := below _ inside
    exact own.ne_pageKey rfl

/-- The key of a component finds the element at its position. -/
theorem find?_identityKey {position : List Nat} {node : Value}
    (rendered : renderer.Renders page tree)
    (visible : position.length ≤ renderer.maxDepth + 1)
    (reached : renderer.catalogue.componentAt? page position = some node) :
    ∃ element, tree.descendant? position = some element ∧
      tree.find? (identityKey (renderer.catalogue.typeOf node) (pathOf position)) =
        some element := by
  obtain ⟨element, atPosition, yielded⟩ := rendered.exists_descendant? reached visible
  refine ⟨element, atPosition, ?_⟩
  rw [← visit_key yielded]
  exact Element.find?_key_of_nodup rendered.nodup_keys
    (Element.mem_walk_of_descendant? atPosition)

end Renders

/-- Keys address elements.  In the tree of a page all keys are different; the key of
every component that is looked at finds the element at the position of the component,
and a key that no element has finds nothing. -/
theorem keys_address_elements (rendered : renderer.Renders page tree) :
    tree.keys.Nodup ∧
      (∀ position node, position.length ≤ renderer.maxDepth + 1 →
        renderer.catalogue.componentAt? page position = some node →
        ∃ element, tree.descendant? position = some element ∧
          tree.find? (identityKey (renderer.catalogue.typeOf node) (pathOf position)) =
            some element) ∧
      ∀ key, key ∉ tree.keys → tree.find? key = none := by
  refine ⟨rendered.nodup_keys, ?_, ?_⟩
  · intro position node visible reached
    exact rendered.find?_identityKey visible reached
  · intro key absent
    exact Element.find?_eq_none_of_notMem absent

/-- Types that look like keys do not lead astray: a component whose type is the key of
another one still has a key of its own. -/
theorem misleading_types_addressed :
    let renderer := Renderer.standard Host.none
    let page : Value := .array [.object [("type", .string "container"),
      ("children", .array [.object [("type", .string "button_0")], .null])],
      .object [("type", .string "container_0/label")]]
    ∃ tree element, renderer.Renders page tree ∧ tree.keys.Nodup ∧
      tree.descendant? [0, 0] = some element ∧
      tree.find? (identityKey "button_0" [0, 0]) = some element := by
  intro renderer page
  obtain ⟨tree, rendered⟩ : ∃ tree, renderer.Renders page tree :=
    renderer.exists_renders (by decide) rfl
  obtain ⟨distinct, addressed, -⟩ := keys_address_elements rendered
  obtain ⟨element, atPosition, found⟩ :=
    addressed [0, 0] (.object [("type", .string "button_0")]) (by decide) rfl
  exact ⟨tree, element, rendered, distinct, atPosition, found⟩

end Renderer

end PageTree
