import PageTree.Proofs.Elements
import PageTree.Proofs.Failure
import PageTree.Proofs.Json.Writable

/-!
# The data of a tree

The plain data of a rendered tree is writable, so every text of the tree is read back as
that data.  Two things come together.  No style and no record of properties in the tree
repeats a field name: they are taken from the page and the theme or merged from records
that are (`Renderer.invariant_hasDistinctKeys`).  And where the data is made, null takes
the place of the doubles that are no numbers, at any depth (`Element.writable_toValue`).

Records of a page or a theme never repeat a name when they were read from a text; here
this is a condition on both.
-/

namespace PageTree

/-- No record of the theme repeats a field name. -/
def Theme.DistinctKeys (theme : Theme) : Prop :=
  ∀ entry ∈ theme, (Value.object entry.2).DistinctKeys

/-! ## Records -/

namespace Value

variable {record changes : Record} {name : String} {raw value : Value}

theorem distinctKeys_nil : (object []).DistinctKeys := ⟨List.nodup_nil, trivial⟩

theorem DistinctKeys.of_get? (distinct : (object record).DistinctKeys)
    (found : Table.get? record name = some value) : value.DistinctKeys :=
  (distinctKeys_object_iff.1 distinct).2 _ (Table.mem_of_get?_eq found)

/-- Records that are written one over the other repeat no name. -/
theorem DistinctKeys.update (distinct : (object record).DistinctKeys)
    (distinctChanges : (object changes).DistinctKeys) :
    (object (Table.update record changes)).DistinctKeys := by
  rw [distinctKeys_object_iff] at distinct distinctChanges ⊢
  refine ⟨distinct.1.update changes, ?_⟩
  intro field member
  rcases Table.mem_update member with kept | changed
  · exact distinct.2 field kept
  · exact distinctChanges.2 field changed

theorem DistinctKeys.recordField (distinct : (object record).DistinctKeys) (name : String) :
    (object (Node.recordField record name)).DistinctKeys := by
  unfold Node.recordField
  split
  next value found =>
    have inside := distinct.of_get? found
    cases value with
    | object fields => exact inside
    | _ => exact distinctKeys_nil
  next => exact distinctKeys_nil

/-- The components inside a component repeat no name either. -/
theorem DistinctKeys.inner {catalogue : Catalogue} {child : Value} (distinct : raw.DistinctKeys)
    (member : child ∈ catalogue.inner raw) : child.DistinctKeys := by
  obtain ⟨fields, rfl, container⟩ := Catalogue.eq_object_of_mem_inner member
  rw [Catalogue.inner_object container, Node.childrenOf] at member
  split at member
  next value found =>
    have inside := distinct.of_get? found
    cases value with
    | array items => exact distinctKeys_array_iff.1 inside child member
    | _ => cases member
  next => cases member

/-- Nor do the components that a page lists. -/
theorem DistinctKeys.components {page : Value} (distinct : page.DistinctKeys) :
    ∀ raw ∈ page.components, raw.DistinctKeys := by
  cases page with
  | array items => exact distinctKeys_array_iff.1 distinct
  | object fields =>
      intro raw member
      rw [Value.components] at member
      cases found : Table.get? fields "components" with
      | none =>
          rw [found] at member
          cases member
      | some value =>
          rw [found] at member
          have inside := distinct.of_get? found
          cases value with
          | array items => exact distinctKeys_array_iff.1 inside raw member
          | _ => cases member
  | _ => exact List.forall_mem_nil _

/-- So no component inside a component does, at any depth. -/
theorem DistinctKeys.descendant? {catalogue : Catalogue} {position : List Nat} {node : Value}
    (distinct : raw.DistinctKeys)
    (found : catalogue.descendant? raw position = some node) : node.DistinctKeys := by
  induction position generalizing raw with
  | nil =>
      obtain rfl : raw = node := by simpa using found
      exact distinct
  | cons index below ih =>
      obtain ⟨child, atIndex, foundBelow⟩ := Catalogue.descendant?_cons_eq_some_iff.1 found
      exact ih (distinct.inner (List.mem_of_getElem? atIndex)) foundBelow

/-- Nor does any component of a page. -/
theorem DistinctKeys.componentAt? {catalogue : Catalogue} {position : List Nat}
    {page node : Value} (distinct : page.DistinctKeys)
    (found : catalogue.componentAt? page position = some node) : node.DistinctKeys := by
  cases position with
  | nil => cases found
  | cons index below =>
      obtain ⟨top, atIndex, foundBelow⟩ := Catalogue.componentAt?_cons_eq_some_iff.1 found
      exact (distinct.components top (List.mem_of_getElem? atIndex)).descendant? foundBelow

end Value

theorem Theme.DistinctKeys.base {theme : Theme} (distinct : theme.DistinctKeys)
    (name : String) : (Value.object (theme.base name)).DistinctKeys :=
  @Theme.base_of_forall theme (fun record => (Value.object record).DistinctKeys)
    Value.distinctKeys_nil distinct name

/-- The built-in theme repeats no name. -/
theorem Theme.distinctKeys_standard : Theme.standard.DistinctKeys := by
  simp [DistinctKeys, standard, standard.centred, Table.Distinct, Table.names,
    Value.DistinctKeys, Value.DistinctKeysOfFields]

/-! ## Elements -/

namespace Element

/-- Neither the style nor the properties of the element repeat a field name. -/
structure HasDistinctKeys (element : Element) : Prop where
  style : (Value.object element.style).DistinctKeys
  props : (Value.object element.props).DistinctKeys

theorem names_optionalField_sublist (name : String) (value? : Option Value) :
    (Table.names (optionalField name value?)).Sublist [name] := by
  cases value? with
  | none => exact List.nil_sublist _
  | some value => exact List.Sublist.refl _

theorem writable_optionalField {name : String} {value? : Option Value}
    (writable : ∀ value, value? = some value → value.Writable) :
    ∀ field ∈ optionalField name value?, field.2.Writable := by
  cases value? with
  | none => exact List.forall_mem_nil _
  | some value => simpa [optionalField] using writable value rfl

/-- An optional text is writable. -/
theorem writable_optionalText (name : String) (text? : Option String) :
    ∀ field ∈ optionalField name (text?.map .string), field.2.Writable := by
  apply writable_optionalField
  intro value found
  obtain ⟨text, -, rfl⟩ := Option.map_eq_some_iff.1 found
  exact Value.writable_string text

theorem writable_actionValue (action : Action) : (actionValue action).Writable := by
  rw [actionValue, Value.writable_object_iff]
  constructor
  · have names := (names_optionalField_sublist "kind" (action.kind.map .string)).append
      (names_optionalField_sublist "target" (action.target.map .string))
    rw [Table.Distinct, Table.names, List.map_append]
    exact names.nodup (by decide)
  · rw [List.forall_mem_append]
    exact ⟨writable_optionalText _ _, writable_optionalText _ _⟩

/-- A record without repeated names is writable once it holds no infinities and NaN. -/
theorem writable_finiteRecord {record : Record} (distinct : (Value.object record).DistinctKeys) :
    (Value.object (Value.finiteOrNullFields record)).Writable :=
  Value.writable_finiteOrNull (.object record) distinct

mutual

/-- The data of a tree is writable when no element repeats a field name. -/
theorem writable_toValue (element : Element)
    (each : element.Throughout HasDistinctKeys) : element.toValue.Writable := by
  obtain ⟨primitive, key, style, props, text, source, children, placeholder, action, onPress⟩ :=
    element
  obtain ⟨own, below⟩ := List.forall_mem_cons.1 each
  rw [toValue, Value.writable_object_iff]
  constructor
  · have names := (((((List.Sublist.refl ["primitive", "key", "style", "props"]).append
      (names_optionalField_sublist "text" (text.map .string))).append
      (names_optionalField_sublist "source" (source.map .string))).append
      (List.Sublist.refl ["children"])).append
      (names_optionalField_sublist "placeholder"
        (placeholder.map fun defect => .string defect.name))).append
      (names_optionalField_sublist "action" (action.map actionValue))
    simp only [Table.Distinct, Table.names, List.map_append, List.map_cons, List.map_nil]
    exact names.nodup (by decide)
  · have placeholderText : placeholder.map (fun defect => Value.string defect.name) =
        (placeholder.map Defect.name).map .string := by
      cases placeholder <;> rfl
    rw [placeholderText]
    simp only [List.forall_mem_append, List.forall_mem_cons]
    refine ⟨⟨⟨⟨⟨⟨Value.writable_string primitive, Value.writable_string key,
      writable_finiteRecord own.style, writable_finiteRecord own.props, List.forall_mem_nil _⟩,
      writable_optionalText _ _⟩, writable_optionalText _ _⟩,
      Value.writable_array_iff.2 (writable_toValues children below), List.forall_mem_nil _⟩,
      writable_optionalText _ _⟩, ?_⟩
    apply writable_optionalField
    intro value found
    obtain ⟨declared, -, rfl⟩ := Option.map_eq_some_iff.1 found
    exact writable_actionValue declared
termination_by structural element

/-- So is the data of several trees. -/
theorem writable_toValues (elements : List Element)
    (each : ∀ part ∈ walkAll elements, part.HasDistinctKeys) :
    ∀ value ∈ toValues elements, value.Writable := by
  cases elements with
  | nil => exact List.forall_mem_nil _
  | cons element rest =>
      rw [walkAll, List.forall_mem_append] at each
      rw [toValues, List.forall_mem_cons]
      exact ⟨writable_toValue element each.1, writable_toValues rest each.2⟩
termination_by structural elements

end

end Element

/-! ## Rendered trees -/

namespace Renderer

open Json

variable {renderer : Renderer} {raw page : Value} {path : Path} {element tree : Element}
variable {type key text : String} {props style payload : Record}

/-- Records that repeat no name are merged from such records. -/
theorem mergesGood_distinctKeys : MergesGood fun record => (Value.object record).DistinctKeys where
  empty := Value.distinctKeys_nil
  merged _ _ distinct distinctChanges := distinct.update distinctChanges

/-- No element repeats a field name, where the theme and the components do not. -/
theorem invariant_hasDistinctKeys (themed : renderer.theme.DistinctKeys) :
    renderer.Invariant Value.DistinctKeys Element.HasDistinctKeys := by
  have asks : ∀ raw : Value, raw.DistinctKeys →
      raw.Asks fun record => (Value.object record).DistinctKeys := by
    intro raw distinct
    cases raw with
    | object fields => exact ⟨distinct.recordField "style", distinct.recordField "props"⟩
    | _ => trivial
  have records := mergesGood_distinctKeys.invariant_hasRecords themed.base
    (fun _ _ distinct member => distinct.inner member) asks
  exact records.imp fun _ own => ⟨own.style, own.props⟩

/-- The data of a rendered tree is writable. -/
theorem Renders.writable_toValue (rendered : renderer.Renders page tree)
    (themed : renderer.theme.DistinctKeys) (distinct : page.DistinctKeys) :
    tree.toValue.Writable :=
  tree.writable_toValue
    ((invariant_hasDistinctKeys themed).of_renders distinct.components rendered)

/-- Every text of a rendered tree is read back as the plain data of the tree, with its
fields in their order.  The page may hold infinities and NaN, for which null stands in the
data; the text is one of the strict format whatever its layout, and none of its tokens
names such a double. -/
theorem read_dump_of_renders (themed : renderer.theme.DistinctKeys)
    (distinct : page.DistinctKeys) (rendered : renderer.Renders page tree) (mend : Mender)
    (indent : Int) :
    read? (tree.dump indent).toList = some tree.toValue ∧
      Document.read mend (tree.dump indent) false = .ok tree.toValue ∧
      tokens? .strict (tree.dump indent).toList = some (tokensOf tree.toValue) ∧
      ∀ token ∈ tokensOf tree.toValue, token.IsFinite := by
  have writable := rendered.writable_toValue themed distinct
  have text : (tree.dump indent).toList =
      (Format.choose indent tree.toValue).write 0 tree.toValue := by
    rw [Element.dump, dump, String.toList_ofList]
  rw [text]
  exact ⟨read?_write _ writable.distinct writable.finite,
    Document.read_of_readStrict?
      (Document.readStrict?_dump writable.distinct writable.finite indent) false,
    tokens?_write _ writable.finite, isFinite_tokensOf tree.toValue writable.finite⟩

/-- A container with an infinite width and with NaN deep in its properties, and a button
with an integer beyond 64 bits: the compact and the indented text hold the same data. -/
theorem read_dump_without_infinity :
    let renderer := Renderer.standard Host.none
    let page : Value := .array [.object [("type", .string "container"),
      ("style", .object [("width", .float (.infinite false))]),
      ("props", .object [("a", .array [.object [("b", .float .nan)], .null])])],
      .object [("type", .string "button"), ("action", .string "navigate"),
        ("props", .object [("n", .int 18446744073709551616)])]]
    renderer.theme.DistinctKeys ∧ page.DistinctKeys ∧
      ∃ tree, renderer.Renders page tree ∧
        Document.read .none (tree.dump 0) false = .ok tree.toValue ∧
        Document.read .none (tree.dump 2) false = .ok tree.toValue := by
  intro renderer page
  have themed : renderer.theme.DistinctKeys := Theme.distinctKeys_standard
  have distinct : page.DistinctKeys := by
    simp [page, Value.DistinctKeys, Value.DistinctKeysOfItems, Value.DistinctKeysOfFields,
      Table.Distinct, Table.names]
  obtain ⟨tree, rendered⟩ : ∃ tree, renderer.Renders page tree :=
    renderer.exists_renders (by decide) rfl
  exact ⟨themed, distinct, tree, rendered,
    (read_dump_of_renders themed distinct rendered .none 0).2.1,
    (read_dump_of_renders themed distinct rendered .none 2).2.1⟩

end Renderer

end PageTree
