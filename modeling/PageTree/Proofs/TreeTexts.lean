import PageTree.Proofs.Appearance
import PageTree.Proofs.TreeData
import PageTree.Proofs.Triggers

/-!
# Texts determine trees

The text of a rendered tree says everything about the tree but its triggers.  Absent fields
are left out of the data, and so are the triggers; nevertheless every field of an element is
found in its data under a name of its own, as absent or with its value
(`Element.showsSame_of_toValue_eq`).  An induction over the tree goes on with the data of the
children (`Element.untriggered_eq_of_toValue_eq`), and two texts of trees are read as the
same value only if the trees are equal but for their triggers.

One thing is lost besides the triggers: null stands for the doubles that are no numbers.
So the styles and the properties of the trees hold finite doubles only, as they do when the
theme and the components of the page hold no others (`Renderer.Renders.throughout_finite`).
-/

namespace PageTree

/-! ## Finite records -/

namespace Value

mutual

/-- Nothing is replaced by null in a value whose doubles are finite. -/
theorem finiteOrNull_eq_self (value : Value) (finite : value.AllFinite) :
    value.finiteOrNull = value := by
  cases value with
  | float number =>
      have isFinite : number.isFinite = true := finite
      rw [finiteOrNull, if_pos isFinite]
  | array items => rw [finiteOrNull, finiteOrNullItems_eq_self items finite]
  | object fields => rw [finiteOrNull, finiteOrNullFields_eq_self fields finite]
  | null | bool | int | string => rfl
termination_by structural value

/-- Nor in a list of such values. -/
theorem finiteOrNullItems_eq_self (items : List Value) (finite : AllFiniteItems items) :
    finiteOrNullItems items = items := by
  cases items with
  | nil => rfl
  | cons item rest =>
      rw [finiteOrNullItems, finiteOrNull_eq_self item finite.1,
        finiteOrNullItems_eq_self rest finite.2]
termination_by structural items

/-- Nor in a record of such values. -/
theorem finiteOrNullFields_eq_self (fields : List (String × Value))
    (finite : AllFiniteFields fields) : finiteOrNullFields fields = fields := by
  cases fields with
  | nil => rfl
  | cons field rest =>
      rw [finiteOrNullFields, finiteOrNull_eq_self field.2 finite.1,
        finiteOrNullFields_eq_self rest finite.2]
termination_by structural fields

end

/-- An optional text is known from its data. -/
theorem map_string_injective : Function.Injective (Option.map string) :=
  Option.map_injective fun _ _ => string.inj

end Value

/-- The styles and properties of a page, and the records of the theme, hold finite doubles
only. -/
structure Renderer.AsksFinite (renderer : Renderer) (page : Value) : Prop where
  themed : ∀ entry ∈ renderer.theme, Value.AllFiniteFields entry.2
  components : ∀ position raw, renderer.catalogue.componentAt? page position = some raw →
    raw.Asks Value.AllFiniteFields

namespace Renderer

variable {renderer : Renderer} {page : Value} {tree : Element}

/-- Records of finite doubles are merged from such records. -/
theorem mergesGood_allFinite : MergesGood Value.AllFiniteFields where
  empty := trivial
  merged base override finite finiteOverride := by
    rw [Value.allFiniteFields_iff] at finite finiteOverride ⊢
    intro field member
    rcases Table.mem_update member with kept | written
    · exact finite field kept
    · exact finiteOverride field written

/-- All styles and properties of a tree hold finite doubles only, where those of the page
and the records of the theme do. -/
theorem Renders.throughout_finite (rendered : renderer.Renders page tree)
    (finite : renderer.AsksFinite page) :
    tree.Throughout (Element.HasRecords Value.AllFiniteFields) := by
  have themed := Theme.base_of_forall mergesGood_allFinite.empty finite.themed
  -- A component is sound when it and all components below it ask for finite records.
  have invariant : renderer.Invariant
      (fun raw => ∀ position node, renderer.catalogue.descendant? raw position = some node →
        node.Asks Value.AllFiniteFields)
      (Element.HasRecords Value.AllFiniteFields) := by
    apply mergesGood_allFinite.invariant_hasRecords themed
    · intro raw child sound member position node found
      obtain ⟨index, atIndex⟩ := List.mem_iff_getElem?.1 member
      exact sound (index :: position) node
        (Catalogue.descendant?_cons_eq_some_iff.2 ⟨child, atIndex, found⟩)
    · intro raw sound
      exact sound [] raw rfl
  refine invariant.of_renders ?_ rendered
  intro top member position node found
  obtain ⟨index, atIndex⟩ := List.mem_iff_getElem?.1 member
  exact finite.components (index :: position) node
    (Catalogue.componentAt?_cons_eq_some_iff.2 ⟨top, atIndex, found⟩)

/-- A page whose components hold no others asks for what these ask for. -/
theorem AsksFinite.of_flat
    (themed : ∀ entry ∈ renderer.theme, Value.AllFiniteFields entry.2)
    (flat : ∀ raw ∈ page.components, renderer.catalogue.inner raw = [])
    (asks : ∀ raw ∈ page.components, raw.Asks Value.AllFiniteFields) :
    renderer.AsksFinite page where
  themed := themed
  components := by
    intro position raw found
    rcases position with _ | ⟨index, below⟩
    · cases found
    · obtain ⟨top, atIndex, foundBelow⟩ := Catalogue.componentAt?_cons_eq_some_iff.1 found
      have member := List.mem_of_getElem? atIndex
      cases below with
      | nil =>
          obtain rfl : top = raw := Option.some.inj foundBelow
          exact asks top member
      | cons index below =>
          obtain ⟨child, inside, -⟩ := Catalogue.descendant?_cons_eq_some_iff.1 foundBelow
          rw [flat top member] at inside
          cases inside

end Renderer

/-! ## The data of an element -/

namespace Element

/-- Two elements show the same: their fields are equal, up to the doubles that are no
numbers, and their children have the same data. -/
structure ShowsSame (left right : Element) : Prop where
  primitive : left.primitive = right.primitive
  key : left.key = right.key
  style : Value.finiteOrNullFields left.style = Value.finiteOrNullFields right.style
  props : Value.finiteOrNullFields left.props = Value.finiteOrNullFields right.props
  text : left.text = right.text
  source : left.source = right.source
  children : toValues left.children = toValues right.children
  placeholder : left.placeholder = right.placeholder
  action : left.action = right.action

/-- An action is known from its data. -/
theorem actionValue_injective : Function.Injective actionValue := by
  intro left right same
  have kind : left.kind = right.kind := by
    apply Value.map_string_injective
    rw [← field?_kind_actionValue, same, field?_kind_actionValue]
  have target : left.target = right.target := by
    apply Value.map_string_injective
    rw [← field?_target_actionValue, same, field?_target_actionValue]
  cases left
  cases right
  rw [Action.mk.injEq]
  exact ⟨kind, target⟩

/-- Elements with the same data show the same. -/
theorem showsSame_of_toValue_eq {left right : Element} (same : left.toValue = right.toValue) :
    left.ShowsSame right := by
  have sameField : ∀ name, left.toValue.field? name = right.toValue.field? name := by
    intro name
    rw [same]
  cases left
  cases right
  have ofText := Value.map_string_injective
  have ofDefect : Function.Injective (Option.map fun defect : Defect => Value.string defect.name) :=
    Option.map_injective fun _ _ equal => Defect.name_injective (Value.string.inj equal)
  have ofAction := Option.map_injective actionValue_injective
  simp only [toValue, Value.field?, Table.get?_append, get?_optionalField] at sameField
  constructor
  case primitive => simpa [Table.get?] using sameField "primitive"
  case key => simpa [Table.get?] using sameField "key"
  case style => simpa [Table.get?] using sameField "style"
  case props => simpa [Table.get?] using sameField "props"
  case text => exact ofText (by simpa [Table.get?] using sameField "text")
  case source => exact ofText (by simpa [Table.get?] using sameField "source")
  case children => simpa [Table.get?] using sameField "children"
  case placeholder => exact ofDefect (by simpa [Table.get?] using sameField "placeholder")
  case action => exact ofAction (by simpa [Table.get?] using sameField "action")

mutual

/-- With finite doubles in its styles and properties, a tree is known from its data, but for
its triggers. -/
theorem untriggered_eq_of_toValue_eq (left right : Element)
    (finite : left.Throughout (HasRecords Value.AllFiniteFields))
    (otherFinite : right.Throughout (HasRecords Value.AllFiniteFields))
    (same : left.toValue = right.toValue) : left.seenAs id = right.seenAs id := by
  have shows := showsSame_of_toValue_eq same
  obtain ⟨own, below⟩ := throughout_iff.1 finite
  obtain ⟨otherOwn, otherBelow⟩ := throughout_iff.1 otherFinite
  obtain ⟨primitive, key, style, props, text, source, children, placeholder, action, onPress⟩ :=
    left
  obtain ⟨_, _, otherStyle, otherProps, _, _, others, _, _, otherOnPress⟩ := right
  obtain ⟨rfl, rfl, sameStyle, sameProps, rfl, rfl, sameChildren, rfl, rfl⟩ := shows
  have style_eq : style = otherStyle := by
    rw [← Value.finiteOrNullFields_eq_self style own.style, sameStyle,
      Value.finiteOrNullFields_eq_self otherStyle otherOwn.style]
  have props_eq : props = otherProps := by
    rw [← Value.finiteOrNullFields_eq_self props own.props, sameProps,
      Value.finiteOrNullFields_eq_self otherProps otherOwn.props]
  rw [seenAs, seenAs, style_eq, props_eq,
    allUntriggered_eq_of_toValues_eq children others below otherBelow sameChildren]
termination_by structural left

/-- So are several trees. -/
theorem allUntriggered_eq_of_toValues_eq (lefts rights : List Element)
    (finite : ∀ left ∈ lefts, left.Throughout (HasRecords Value.AllFiniteFields))
    (otherFinite : ∀ right ∈ rights, right.Throughout (HasRecords Value.AllFiniteFields))
    (same : toValues lefts = toValues rights) : allSeenAs id lefts = allSeenAs id rights := by
  cases lefts with
  | nil =>
      cases rights with
      | nil => rfl
      | cons right rights => cases same
  | cons left lefts =>
      cases rights with
      | nil => cases same
      | cons right rights =>
          rw [toValues, toValues, List.cons.injEq] at same
          rw [List.forall_mem_cons] at finite otherFinite
          rw [allSeenAs, allSeenAs,
            untriggered_eq_of_toValue_eq left right finite.1 otherFinite.1 same.1,
            allUntriggered_eq_of_toValues_eq lefts rights finite.2 otherFinite.2 same.2]
termination_by structural lefts

end

/-- With finite doubles in their styles and properties, two trees have the same data when
they are equal but for their triggers, and only then. -/
theorem toValue_eq_iff {left right : Element}
    (finite : left.Throughout (HasRecords Value.AllFiniteFields))
    (otherFinite : right.Throughout (HasRecords Value.AllFiniteFields)) :
    left.toValue = right.toValue ↔ left.untriggered = right.untriggered := by
  constructor
  · exact untriggered_eq_of_toValue_eq left right finite otherFinite
  · intro same
    rw [← toValue_untriggered left, ← toValue_untriggered right]
    exact congrArg toValue same

/-! ## The places of a tree -/

section Views

variable {look : Record → Record} {element other : Element}

theorem text_seenAs (element : Element) : (element.seenAs look).text = element.text := by
  cases element
  rfl

theorem action_seenAs (element : Element) : (element.seenAs look).action = element.action := by
  cases element
  rfl

/-- A view of a tree shows views of its elements, at their places. -/
theorem descendant?_seenAs (path : List Nat) :
    (element.seenAs look).descendant? path = (element.descendant? path).map (seenAs look) := by
  induction path generalizing element with
  | nil => rw [descendant?_nil, descendant?_nil, Option.map_some]
  | cons index path ih =>
      have children : (element.seenAs look).children[index]? =
          element.children[index]?.map (seenAs look) := by
        rw [← List.getElem?_map, ← allSeenAs_eq_map]
        cases element
        rfl
      rw [descendant?_cons, descendant?_cons, children, Option.bind_map, Option.map_bind]
      exact congrArg _ (funext fun child => ih)

/-- A field that a view leaves as it is has one value at each place of trees that are equal
but for their triggers. -/
theorem map_descendant?_of_untriggered {Field : Type} {field : Element → Field}
    (same : element.untriggered = other.untriggered)
    (kept : ∀ part : Element, field (part.seenAs id) = field part) (path : List Nat) :
    (element.descendant? path).map field = (other.descendant? path).map field := by
  have seen : ∀ tree : Element,
      (tree.untriggered.descendant? path).map field = (tree.descendant? path).map field := by
    intro tree
    rw [untriggered, descendant?_seenAs, Option.map_map]
    exact congrArg (Option.map · _) (funext kept)
  rw [← seen element, same, seen other]

end Views

end Element

/-! ## Rendered trees -/

namespace Renderer

open Json

/-- A tree is rendered from a page and a theme that repeat no field name, and its styles and
properties hold finite doubles only. -/
structure RendersFinite (renderer : Renderer) (page : Value) (tree : Element) : Prop where
  themed : renderer.theme.DistinctKeys
  distinct : page.DistinctKeys
  rendered : renderer.Renders page tree
  finite : tree.Throughout (Element.HasRecords Value.AllFiniteFields)

theorem RendersFinite.read_text {renderer : Renderer} {page : Value} {tree : Element}
    (rendering : renderer.RendersFinite page tree) (mend : Mender) (indent : Int)
    (repair : Bool) : Document.read mend (tree.dump indent) repair = .ok tree.toValue := by
  have writable := rendering.rendered.writable_toValue rendering.themed rendering.distinct
  have accepted := Document.readStrict?_dump writable.distinct writable.finite indent
  exact Document.read_of_readStrict? accepted repair

variable {left right : Renderer} {page otherPage : Value} {tree other : Element}

/-- The texts of two rendered trees are read as the same value, with the fields in the same
order, if and only if the trees are equal but for their triggers, whatever the renderers, the
pages and the indentations.  In particular, at each place of the two trees an absent text is
not taken for an empty one, nor an absent action for one with a kind only or a target only. -/
theorem texts_determine_trees (rendering : left.RendersFinite page tree)
    (otherRendering : right.RendersFinite otherPage other) (mend : Mender)
    (indent otherIndent : Int) (repair : Bool) :
    ((∃ value, Document.read mend (tree.dump indent) repair = .ok value ∧
          Document.read mend (other.dump otherIndent) repair = .ok value) ↔
        tree.untriggered = other.untriggered) ∧
      ∀ value, Document.read mend (tree.dump indent) repair = .ok value →
        Document.read mend (other.dump otherIndent) repair = .ok value → ∀ path,
          (tree.descendant? path).map Element.text = (other.descendant? path).map Element.text ∧
            (tree.descendant? path).map Element.action =
              (other.descendant? path).map Element.action := by
  have sameData := Element.toValue_eq_iff rendering.finite otherRendering.finite
  rw [rendering.read_text, otherRendering.read_text]
  constructor
  · rw [← sameData]
    constructor
    · rintro ⟨value, read, otherRead⟩
      exact Except.ok.inj (read.trans otherRead.symm)
    · intro same
      exact ⟨_, rfl, congrArg Except.ok same.symm⟩
  · intro value read otherRead path
    have same := sameData.1 (Except.ok.inj (read.trans otherRead.symm))
    exact ⟨Element.map_descendant?_of_untriggered same Element.text_seenAs path,
      Element.map_descendant?_of_untriggered same Element.action_seenAs path⟩

/-- What is seen of a rendered tree is computed from its page. -/
theorem Renders.look_eq {renderer : Renderer} {Seen : Type} {seen : Seen}
    (rendered : renderer.Renders page tree) (look : Element → Seen)
    (computed : ((renderer.renderPage page).toOption.bind fun report =>
      report.outcome.toOption.map look) = some seen) : look tree = seen := by
  obtain ⟨report, found, yielded⟩ := rendered
  rw [found, Except.toOption, Option.bind_some, yielded, Except.toOption, Option.map_some]
    at computed
  exact Option.some.inj computed

/-- An empty text, and a container of the primitive of texts with the same key: the text is
absent from one of the trees, and they are read as different values.  A host that serves the
action of the button leaves no trace in the text. -/
theorem texts_determine_trees_with_empty_text :
    let texts : Renderer := ⟨[("x", [("width", .float (.finite false ⟨1, by decide⟩))])],
      ⟨[("x", .text), ("button", .button)], .fallback⟩, Host.none, 2, by decide⟩
    let containers : Renderer := { texts with
      catalogue := ⟨[("x", .container Primitive.text), ("button", .button)], .fallback⟩ }
    let hosted : Renderer := { texts with host := ⟨[(Host.navigate, some ⟨"go", true⟩)]⟩ }
    let page : Value := .array [.object [("type", .string "x"), ("content", .string ""),
        ("style", .object [("width", .int 1), ("height", .bool true)])],
      .object [("type", .string "button"), ("text", .float .nan), ("action", .string "navigate")]]
    ∃ tree other another, texts.RendersFinite page tree ∧ containers.RendersFinite page other ∧
      hosted.RendersFinite page another ∧
      (¬∃ value, Document.read .none (tree.dump 0) true = .ok value ∧
        Document.read .none (other.dump 2) true = .ok value) ∧
      ∃ value, Document.read .none (tree.dump 0) true = .ok value ∧
        Document.read .none (another.dump 2) true = .ok value := by
  intro texts containers hosted page
  have themed : texts.theme.DistinctKeys := by
    simp [texts, Theme.DistinctKeys, Value.DistinctKeys, Value.DistinctKeysOfFields,
      Table.Distinct, Table.names]
  have distinct : page.DistinctKeys := by
    simp [page, Value.DistinctKeys, Value.DistinctKeysOfItems, Value.DistinctKeysOfFields,
      Table.Distinct, Table.names]
  have themedFinite : ∀ entry ∈ texts.theme, Value.AllFiniteFields entry.2 := by
    simp only [texts, List.forall_mem_singleton, Value.AllFiniteFields, Value.AllFinite]
    decide
  have asks : ∀ raw ∈ page.components, raw.Asks Value.AllFiniteFields := by
    simp [page, Value.components, Value.Asks, Node.recordField, Table.get?, Value.recordOrEmpty,
      Value.AllFiniteFields, Value.AllFinite]
  have textsFlat : ∀ raw ∈ page.components, texts.catalogue.inner raw = [] := by
    simp only [page, Value.components, List.forall_mem_cons]
    decide
  have containersFlat : ∀ raw ∈ page.components, containers.catalogue.inner raw = [] := by
    simp only [page, Value.components, List.forall_mem_cons]
    decide
  obtain ⟨tree, rendered⟩ : ∃ tree, texts.Renders page tree := texts.exists_renders rfl rfl
  obtain ⟨other, otherRendered⟩ : ∃ tree, containers.Renders page tree :=
    containers.exists_renders rfl rfl
  obtain ⟨another, anotherRendered⟩ : ∃ tree, hosted.Renders page tree :=
    hosted.exists_renders rfl rfl
  have rendering : texts.RendersFinite page tree :=
    ⟨themed, distinct, rendered, rendered.throughout_finite (.of_flat themedFinite textsFlat asks)⟩
  have otherRendering : containers.RendersFinite page other :=
    ⟨themed, distinct, otherRendered,
      otherRendered.throughout_finite (.of_flat themedFinite containersFlat asks)⟩
  have anotherRendering : hosted.RendersFinite page another :=
    ⟨themed, distinct, anotherRendered,
      anotherRendered.throughout_finite (.of_flat themedFinite textsFlat asks)⟩
  refine ⟨tree, other, another, rendering, otherRendering, anotherRendering, ?_, ?_⟩
  · rintro ⟨value, read, otherRead⟩
    have sameText := ((texts_determine_trees rendering otherRendering .none 0 2 true).2 value read
      otherRead [0]).1
    have emptyText : (tree.descendant? [0]).map Element.text = some (some "") :=
      rendered.look_eq (fun seen => (seen.descendant? [0]).map Element.text) (by decide +kernel)
    have noText : (other.descendant? [0]).map Element.text = some none :=
      otherRendered.look_eq (fun seen => (seen.descendant? [0]).map Element.text)
        (by decide +kernel)
    rw [emptyText, noText] at sameText
    cases sameText
  · have alike : LooksLike id texts hosted :=
      looksLike_id ⟨fun _ => rfl, rfl⟩ rfl fun _ _ => rfl
    exact (texts_determine_trees rendering anotherRendering .none 0 2 true).1.2
      (alike.seenAs_eq rendered anotherRendered)

end Renderer

end PageTree
