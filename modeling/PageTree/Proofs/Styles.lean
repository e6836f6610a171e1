import PageTree.Proofs.Descent
import PageTree.Proofs.Reading
import PageTree.Proofs.TreeData

/-!
# The style of a component

The style of a rendered component is merged from up to four records, each written over those
before it (`Renderer.styleLayers`): the built-in record of its type, the record that is put
over it by a theme, the style that the component asks for, and the record of the placeholder
of an image that has no source.

So the last of these records that has a key gives its value (`Table.get?_foldl_update`), and
the keys stand in the order in which the records bring them in
(`Table.names_foldl_update`).
-/

namespace PageTree

/-! ## Extended themes -/

namespace Theme

variable {overrides : Theme}

theorem base_insert (theme : Theme) (name other : String) (record : Record) :
    Theme.base (Table.insert theme name record) other =
      if name = other then record else theme.base other := by
  unfold base
  split
  next same => rw [same, Table.get?_insert_self, Option.getD_some]
  next different => rw [Table.get?_insert_of_ne theme record (Ne.symm different)]

theorem base_cons (rest : Theme) (name other : String) (record : Record) :
    Theme.base ((name, record) :: rest) other =
      if name = other then record else rest.base other := by
  unfold base
  rw [Table.get?]
  split <;> rfl

/-- The records of an extended theme are merged from those of the theme and those that were
put over it. -/
theorem base_extend (distinct : overrides.Distinct) (theme : Theme) (name : String) :
    (theme.extend overrides).base name = mergeStyle (theme.base name) (overrides.base name) := by
  induction overrides generalizing theme with
  | nil => rfl
  | cons entry rest ih =>
      obtain ⟨changed, record⟩ := entry
      obtain ⟨absent, distinctRest⟩ := List.nodup_cons.1 distinct
      refine (ih distinctRest (theme.extendEntry changed record)).trans ?_
      rw [extendEntry, base_insert, base_cons]
      split
      next asked =>
        subst changed
        have unwritten : Theme.base rest name = [] := by
          rw [base, (Table.get?_eq_none_iff rest name).2 absent]
          rfl
        rw [unwritten]
        rfl
      next => rfl

end Theme

/-! ## Presented styles -/

/-- The style that a component asks for.  What is no object asks for none. -/
theorem Node.style_ofValue (isContainer : String → Bool) (raw : Value) :
    (Node.ofValue isContainer raw).style = Node.recordField raw.shownFields "style" := by
  cases raw with
  | object fields =>
      rw [Node.ofValue]
      split <;> rfl
  | _ => rfl

/-- Whether a component is to be an image and shows no source. -/
def Catalogue.lacksSource (catalogue : Catalogue) (raw : Value) : Bool :=
  catalogue.presentation (catalogue.typeOf raw) = .image ∧
    raw.shows "source" Value.isTextualNonempty = false

namespace Renderer

variable {renderer : Renderer} {overrides : Theme} {page raw : Value} {position : List Nat}
variable {levels : Nat} {path : Path} {element : Element}

/-- Whether the theme styles the components of a type.  It does so for the registered types,
unless the name is one for other parts of the page. -/
def themes (renderer : Renderer) (type : String) : Bool :=
  renderer.catalogue.contains type ∧ type ∉ Theme.chrome

theorem styleOf_eq (renderer : Renderer) (node : Node) :
    renderer.styleOf node =
      mergeStyle (if renderer.themes node.type then renderer.theme.base node.type else [])
        node.style := by
  unfold styleOf Theme.resolve themes
  split <;> split <;> simp_all

/-- The style with which a component is presented.  An image without a source takes that of
the placeholder over its own. -/
def presentedStyle (renderer : Renderer) (raw : Value) : Record :=
  if renderer.catalogue.lacksSource raw then
    mergeStyle (renderer.styleOf (Node.ofValue renderer.catalogue.isContainer raw))
      (renderer.theme.base "imagePlaceholder")
  else renderer.styleOf (Node.ofValue renderer.catalogue.isContainer raw)

theorem presentedStyle_of_ne_image
    (other : renderer.catalogue.presentation (renderer.catalogue.typeOf raw) ≠ .image) :
    renderer.presentedStyle raw =
      renderer.styleOf (Node.ofValue renderer.catalogue.isContainer raw) := by
  simp [presentedStyle, Catalogue.lacksSource, other]

/-- A presented leaf has this style. -/
theorem style_of_presentLeaf {type : String} {props style payload : Record}
    (shape : Node.ofValue renderer.catalogue.isContainer raw = .leaf type props style payload)
    (yielded : (renderer.presentLeaf type props style payload path).outcome = .ok element) :
    element.style = renderer.presentedStyle raw := by
  obtain ⟨-, rfl, rfl⟩ := Catalogue.of_ofValue_eq_leaf shape
  unfold presentLeaf at yielded
  cases presented : renderer.catalogue.presentation (renderer.catalogue.typeOf raw) with
  | image =>
      simp only [presented] at yielded
      obtain ⟨source, read, yielded⟩ := (Report.outcome_reading_eq_ok_iff _ _ _).1 yielded
      have shown := Value.isSome_given?_of_text?_eq_ok read
      simp only [presentedStyle, Catalogue.lacksSource, presented, ← shown, shape]
      cases given : Host.given? source with
      | some source =>
          rw [given] at yielded
          cases yielded
          simp
      | none =>
          rw [given] at yielded
          cases yielded
          simp
  | container primitive =>
      rw [presented] at yielded
      cases yielded
  | text =>
      rw [presentedStyle_of_ne_image (by simp [presented]), shape]
      simp only [presented] at yielded
      obtain ⟨content, -, yielded⟩ := (Report.outcome_reading_eq_ok_iff _ _ _).1 yielded
      cases content <;> cases yielded <;> rfl
  | button =>
      rw [presentedStyle_of_ne_image (by simp [presented]), shape]
      simp only [presented, presentButton, Report.outcome_map_eq_ok_iff] at yielded
      obtain ⟨label, -, rfl⟩ := yielded
      rfl
  | fallback =>
      rw [presentedStyle_of_ne_image (by simp [presented]), shape]
      rw [presented] at yielded
      cases yielded
      rfl

/-- So has every component within the limit. -/
theorem style_of_visit (component : raw.isComponent = true)
    (yielded : (renderer.visit (levels + 1) raw path).outcome = .ok element) :
    element.style = renderer.presentedStyle raw := by
  have spec := renderer.visit_spec (levels + 1) raw path
  generalize renderer.visit (levels + 1) raw path = report at spec yielded
  cases spec with
  | malformed _ shape => exact absurd shape (Node.isComponent_iff.1 component _)
  | leaf _ shape => exact style_of_presentLeaf shape yielded
  | @container _ fields primitive presented =>
      rw [Report.outcome_counted, Report.outcome_map_eq_ok_iff] at yielded
      obtain ⟨children, -, rfl⟩ := yielded
      have container := Catalogue.isContainer_iff.2 ⟨primitive, presented⟩
      have noImage : renderer.catalogue.presentation
          (renderer.catalogue.typeOf (.object fields)) ≠ .image := by
        simp [Catalogue.typeOf_object, presented]
      rw [presentedStyle_of_ne_image noImage, Node.ofValue, if_pos container]
      rfl

/-- A notice has no style. -/
theorem style_of_notice (notice : raw.isComponent = false ∨ levels = 0)
    (yielded : (renderer.visit levels raw path).outcome = .ok element) : element.style = [] := by
  have spec := renderer.visit_spec levels raw path
  generalize renderer.visit levels raw path = report at spec yielded
  cases spec with
  | malformed | tooDeep =>
      cases yielded
      rfl
  | container => simp [Value.isComponent] at notice
  | leaf _ shape => simp [Catalogue.of_ofValue_eq_leaf shape] at notice

/-! ## Layers of styles -/

/-- The records that style a type, where `overrides` have been put over the built-in theme. -/
def baseLayers (renderer : Renderer) (overrides : Theme) (type : String) : List Record :=
  if renderer.themes type then [Theme.standard.base type, overrides.base type] else []

/-- The records that the style of a component is merged from: those of its type, its own, and
that of the placeholder for an image. -/
def styleLayers (renderer : Renderer) (overrides : Theme) (raw : Value) : List Record :=
  renderer.baseLayers overrides (renderer.catalogue.typeOf raw) ++
    [Node.recordField raw.shownFields "style"] ++
    if renderer.catalogue.lacksSource raw then [renderer.theme.base "imagePlaceholder"] else []

/-- The base style of a type is merged from its layers. -/
theorem foldl_baseLayers (themed : renderer.theme = Theme.standard.extend overrides)
    (distinctNames : overrides.Distinct) (type : String) :
    (renderer.baseLayers overrides type).foldl mergeStyle [] =
      if renderer.themes type then renderer.theme.base type else [] := by
  have distinct := (Value.distinctKeys_object_iff.1 (Theme.distinctKeys_standard.base type)).1
  have first : mergeStyle [] (Theme.standard.base type) = Theme.standard.base type :=
    Table.update_eq_append distinct
  rw [baseLayers, themed, Theme.base_extend distinctNames]
  split
  · rw [List.foldl_cons, first, List.foldl_cons, List.foldl_nil]
  · rfl

/-- The style of a component is merged from its layers. -/
theorem presentedStyle_eq_foldl (themed : renderer.theme = Theme.standard.extend overrides)
    (distinctNames : overrides.Distinct) (raw : Value) :
    renderer.presentedStyle raw = (renderer.styleLayers overrides raw).foldl mergeStyle [] := by
  rw [presentedStyle, styleOf_eq, Node.style_ofValue, styleLayers, List.foldl_append,
    List.foldl_append, foldl_baseLayers themed distinctNames, Catalogue.typeOf]
  split <;> rfl

/-- No layer of a style repeats a key. -/
theorem distinct_styleLayers (themed : renderer.theme = Theme.standard.extend overrides)
    (distinctNames : overrides.Distinct) (distinct : overrides.DistinctKeys)
    (distinctRaw : raw.DistinctKeys) :
    ∀ layer ∈ renderer.styleLayers overrides raw, Table.Distinct layer := by
  have each (layer : Record) : (Value.object layer).DistinctKeys → Table.Distinct layer :=
    fun distinct => (Value.distinctKeys_object_iff.1 distinct).1
  have standard (name : String) := each _ (Theme.distinctKeys_standard.base name)
  have overriding (name : String) := each _ (distinct.base name)
  have own : Table.Distinct (Node.recordField raw.shownFields "style") := by
    cases raw with
    | object fields => exact each _ (distinctRaw.recordField "style")
    | _ => exact List.nodup_nil
  have placeholder : Table.Distinct (renderer.theme.base "imagePlaceholder") := by
    rw [themed, Theme.base_extend distinctNames]
    exact (standard _).update _
  unfold styleLayers baseLayers
  split <;> split <;> simp [standard, overriding, own, placeholder]

/-- The style of every component.  Where `overrides` have been put over the built-in theme,
the style of a component within the limit is merged from its layers: the last layer that has
a key gives its value, and the keys stand where the layers first bring them in.  The notices
in place of components that are malformed or too deep have no style.  In a rendered page these
are the styles of the elements at the positions of the components. -/
theorem style_in_layers (renderer : Renderer) {overrides : Theme}
    (themed : renderer.theme = Theme.standard.extend overrides)
    (distinctNames : overrides.Distinct) (distinct : overrides.DistinctKeys)
    (distinctPage : page.DistinctKeys)
    (found : renderer.catalogue.componentAt? page position = some raw)
    (visible : position.length ≤ renderer.maxDepth + 1)
    (yielded : (renderer.render raw (pathOf position)).outcome = .ok element) :
    (raw.isComponent = true → position.length ≤ renderer.maxDepth →
        (∀ key, Table.get? element.style key =
          (renderer.styleLayers overrides raw).reverse.findSome? (Table.get? · key)) ∧
        element.style.names =
          ((renderer.styleLayers overrides raw).flatMap Table.names).eraseDups) ∧
      (raw.isComponent = false ∨ renderer.maxDepth < position.length → element.style = []) ∧
      ∀ tree, renderer.Renders page tree → tree.descendant? position = some element := by
  refine ⟨?_, ?_, ?_⟩
  · intro component within
    rw [render_pathOf, Nat.succ_sub within] at yielded
    have layered := (style_of_visit component yielded).trans
      (presentedStyle_eq_foldl themed distinctNames raw)
    have distinctLayers :=
      distinct_styleLayers themed distinctNames distinct (distinctPage.componentAt? found)
    rw [layered]
    constructor
    · intro key
      refine (Table.get?_foldl_update distinctLayers [] key).trans ?_
      simp
    · have empty : Table.Distinct ([] : Record) := List.nodup_nil
      exact Table.names_foldl_update empty _
  · intro notice
    rw [render_pathOf] at yielded
    exact style_of_notice (notice.imp_right fun beyond => by omega) yielded
  · intro tree rendered
    obtain ⟨part, atPosition, rendering⟩ := rendered.exists_descendant? found visible
    rw [atPosition]
    exact congrArg some (Except.ok.inj (rendering.symm.trans yielded))

/-- An image with an empty source, in a theme with records for images and their placeholder:
the placeholder is over the style that the image asks for, and this is over its type. -/
theorem style_of_image_without_source :
    let overrides : Theme := [("image", [("height", .int 1), ("tint", .string "red")]),
      ("imagePlaceholder", [("width", .int 5), ("border", .int 2)])]
    let renderer : Renderer := ⟨Theme.standard.extend overrides, Catalogue.standard, Host.none,
      1, Nat.one_pos⟩
    let image : Value := .object [("type", .string "image"), ("source", .string ""),
      ("style", .object [("opacity", .int 3), ("width", .int 7), ("tint", .null)])]
    let page : Value := .array [image]
    overrides.Distinct ∧ overrides.DistinctKeys ∧ page.DistinctKeys ∧
      renderer.catalogue.componentAt? page [0] = some image ∧
      ∃ element tree, (renderer.render image (pathOf [0])).outcome = .ok element ∧
        element.style.names = ["width", "height", "marginBottom", "borderRadius", "tint",
          "opacity", "backgroundColor", "border"] ∧
        Table.get? element.style "width" = some (.int 5) ∧
        Table.get? element.style "tint" = some .null ∧
        Table.get? element.style "height" = some (.int 1) ∧
        Table.get? element.style "marginBottom" = some (.int 16) ∧
        renderer.Renders page tree ∧ tree.descendant? [0] = some element := by
  intro overrides renderer image page
  have distinctNames : overrides.Distinct := by decide
  have distinct : overrides.DistinctKeys := by
    simp [overrides, Theme.DistinctKeys, Table.Distinct, Table.names, Value.DistinctKeys,
      Value.DistinctKeysOfFields]
  have distinctPage : page.DistinctKeys := by
    simp [page, image, Value.DistinctKeys, Value.DistinctKeysOfItems,
      Value.DistinctKeysOfFields, Table.Distinct, Table.names]
  have found : renderer.catalogue.componentAt? page [0] = some image := rfl
  obtain ⟨tree, rendered⟩ : ∃ tree, renderer.Renders page tree :=
    renderer.exists_renders (by decide) rfl
  obtain ⟨element, atPosition, yielded⟩ := rendered.exists_descendant? found (by decide)
  obtain ⟨layered, -, -⟩ := style_in_layers renderer rfl distinctNames distinct distinctPage
    found (by decide) yielded
  obtain ⟨values, names⟩ := layered rfl (by decide)
  have layers : renderer.styleLayers overrides image =
      [[("width", .string "100%"), ("height", .int 200), ("marginBottom", .int 16),
          ("borderRadius", .int 8)],
        [("height", .int 1), ("tint", .string "red")],
        [("opacity", .int 3), ("width", .int 7), ("tint", .null)],
        [("backgroundColor", .string "#eeeeee"), ("width", .int 5), ("border", .int 2)]] := rfl
  rw [layers] at values names
  exact ⟨distinctNames, distinct, distinctPage, found, element, tree, yielded,
    names.trans (by decide), values "width", values "tint", values "height",
    values "marginBottom", rendered, atPosition⟩

end Renderer

end PageTree
