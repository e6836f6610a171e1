import PageTree.Proofs.Reading

/-!
# Canonical descriptions

The same page can be described in many ways: as an object or as a bare list, with plain
text for a text component, with fields left out or of the wrong kind, with numbers in place
of texts.  `Value.canonicalPage` writes out what the renderer makes of all this: an object
that lists its components, each of them an object with a type, properties, a style and
children, whose other fields are texts or absent.

A page and its canonical description are rendered to the same tree with the same counts
(`Renderer.rendersAlike_canonicalPageWith`), and there is nothing left to write out in a
canonical description (`Value.canonicalPage_canonicalPage`).  The latter needs texts to be
written out with all fields of an object (`Renderer.textObject_page_not_final`).  An integer
that has too many digits to be written stays what it is.
-/

namespace PageTree

/-! ## Rewriting fields -/

namespace Table

variable {α : Type} {table : Table α} {name other : String}

/-- Write an entry, or leave the name out. -/
def assign (table : Table α) (name : String) : Option α → Table α
  | some entry => insert table name entry
  | none => table.filter fun field => field.1 ≠ name

/-- Rewrite the entries of some names, each from what is there. -/
def reform (forms : Table (Option α → Option α)) (table : Table α) : Table α :=
  forms.foldl (fun result form => assign result form.1 (form.2 (get? result form.1))) table

theorem get?_filter_ne (table : Table α) (name other : String) :
    get? (table.filter fun field => field.1 ≠ name) other =
      if other = name then none else get? table other := by
  induction table with
  | nil => simp
  | cons head rest ih =>
      obtain ⟨headName, entry⟩ := head
      by_cases same : headName = name
      · subst headName
        by_cases asked : other = name
        · simpa [asked] using ih
        · simpa [asked, get?, Ne.symm asked] using ih
      · by_cases asked : other = name
        · subst other
          simpa [same, get?] using ih
        · by_cases here : headName = other
          · simp [asked, get?, here]
          · simpa [same, asked, get?, here] using ih

theorem get?_assign (table : Table α) (name other : String) (written : Option α) :
    get? (assign table name written) other =
      if other = name then written else get? table other := by
  cases written with
  | none => exact get?_filter_ne table name other
  | some entry =>
      by_cases asked : other = name
      · subst other
        simp [assign]
      · simp [assign, asked, get?_insert_of_ne table entry asked]

/-- Writing what is there changes nothing. -/
theorem assign_get? (table : Table α) (name : String) :
    assign table name (get? table name) = table := by
  cases found : get? table name with
  | some entry => exact insert_of_get?_eq found
  | none =>
      rw [get?_eq_none_iff] at found
      rw [assign, List.filter_eq_self]
      intro field member
      have different : field.1 ≠ name := by
        rintro rfl
        exact found (List.mem_map_of_mem member)
      simpa using different

/-- Every name is rewritten once, from what was there in the beginning. -/
theorem get?_reform {forms : Table (Option α → Option α)} (distinct : forms.Distinct)
    (table : Table α) (name : String) :
    get? (reform forms table) name =
      match get? forms name with
      | some form => form (get? table name)
      | none => get? table name := by
  induction forms generalizing table with
  | nil => rfl
  | cons head rest ih =>
      obtain ⟨headName, form⟩ := head
      obtain ⟨absent, distinctRest⟩ := List.nodup_cons.1 distinct
      have behind := ih distinctRest (assign table headName (form (get? table headName)))
      rw [get?_assign] at behind
      rw [reform, List.foldl_cons]
      refine behind.trans ?_
      by_cases asked : name = headName
      · subst name
        have unwritten : get? rest headName = none := (get?_eq_none_iff rest headName).2 absent
        simp [unwritten, get?]
      · simp [asked, get?, Ne.symm asked]

/-- A table that has every form already is not changed. -/
theorem reform_eq_self {forms : Table (Option α → Option α)}
    (formed : ∀ form ∈ forms, form.2 (get? table form.1) = get? table form.1) :
    reform forms table = table := by
  induction forms with
  | nil => rfl
  | cons head rest ih =>
      rw [List.forall_mem_cons] at formed
      rw [reform, List.foldl_cons, formed.1, assign_get?]
      exact ih formed.2

/-- Rewriting a second time changes nothing if no form does. -/
theorem reform_reform {forms : Table (Option α → Option α)} (distinct : forms.Distinct)
    (final : ∀ form ∈ forms, ∀ entry, form.2 (form.2 entry) = form.2 entry) (table : Table α) :
    reform forms (reform forms table) = reform forms table := by
  apply reform_eq_self
  intro form member
  rw [get?_reform distinct, get?_of_mem distinct member]
  exact final form member _

end Table

/-! ## Canonical components -/

namespace Node

/-- The object that text stands for. -/
def textObject (text : String) : Record :=
  [("type", .string textType), ("content", .string text)]

/-- A type, with the unknown type in place of anything but non-empty text. -/
def typeForm : Option Value → Option Value
  | some (.string type) => some (.string (if type = "" then unknownType else type))
  | _ => some (.string unknownType)

/-- A record, with an empty one in place of anything else. -/
def recordForm (field : Option Value) : Option Value :=
  some (.object ((field.getD .null).recordOrEmpty))

/-- Text, with numbers written out where they can be and nothing in place of anything
else. -/
def textForm (field : Option Value) : Option Value :=
  match field.map Value.asText? with
  | some (.ok text) => text.map .string
  | some (.error _) => field
  | none => none

/-- Text, and nothing in place of anything else. -/
def nameForm (field : Option Value) : Option Value :=
  (field.bind Value.string?).map .string

/-- The forms of the fields that are read, with children that are canonical already. -/
def forms (children : List Value) : Table (Option Value → Option Value) :=
  [("type", typeForm), ("props", recordForm), ("style", recordForm),
    ("children", fun _ => some (.array children)), ("content", textForm),
    ("source", textForm), ("text", textForm), ("action", nameForm), ("target", nameForm)]

variable {children : List Value} {fields : Record}

theorem distinct_forms (children : List Value) : (forms children).Distinct := by
  have names : (forms children).names =
      ["type", "props", "style", "children", "content", "source", "text", "action", "target"] := rfl
  rw [Table.Distinct, names]
  decide

theorem typeForm_get? (fields : Record) :
    typeForm (Table.get? fields "type") = some (.string (typeOf fields)) := by
  unfold typeForm typeOf
  cases Table.get? fields "type" with
  | none => rfl
  | some value => cases value <;> rfl

/-- A form of types yields text that is not empty. -/
theorem exists_typeForm_eq (entry : Option Value) :
    ∃ type, type ≠ "" ∧ typeForm entry = some (.string type) := by
  unfold typeForm
  split
  · split
    next => exact ⟨unknownType, by decide, rfl⟩
    next nonempty => exact ⟨_, nonempty, rfl⟩
  · exact ⟨unknownType, by decide, rfl⟩

/-- What has its form is not changed by it. -/
theorem form_form (children : List Value) :
    ∀ form ∈ forms children, ∀ entry, form.2 (form.2 entry) = form.2 entry := by
  have type (entry : Option Value) : typeForm (typeForm entry) = typeForm entry := by
    obtain ⟨type, nonempty, typed⟩ := exists_typeForm_eq entry
    rw [typed]
    simp only [typeForm, if_neg nonempty]
  have record (entry : Option Value) : recordForm (recordForm entry) = recordForm entry := rfl
  have text (entry : Option Value) : textForm (textForm entry) = textForm entry := by
    cases entry with
    | none => rfl
    | some value =>
        cases read : value.asText? with
        | ok text => cases text <;> simp [textForm, read]
        | error reason => simp [textForm, read]
  have name (entry : Option Value) : nameForm (nameForm entry) = nameForm entry := by
    unfold nameForm
    cases entry.bind Value.string? <;> rfl
  simp [forms, type, record, text, name]

/-! What is read of an object is what it was before. -/

theorem typeOf_reform : typeOf (Table.reform (forms children) fields) = typeOf fields := by
  have written : Table.get? (Table.reform (forms children) fields) "type" =
      some (.string (typeOf fields)) :=
    (Table.get?_reform (distinct_forms children) fields "type").trans (typeForm_get? fields)
  rw [typeOf, written]
  exact if_neg (typeOf_ne_empty fields)

theorem recordField_eq (fields : Record) (name : String) :
    recordField fields name = ((Table.get? fields name).getD .null).recordOrEmpty := by
  unfold recordField
  cases Table.get? fields name <;> rfl

/-- A record is the same record. -/
theorem recordField_reform (name : String)
    (isRecord : Table.get? (forms children) name = some recordForm) :
    recordField (Table.reform (forms children) fields) name = recordField fields name := by
  rw [recordField_eq, Table.get?_reform (distinct_forms children), isRecord, recordField_eq]
  rfl

theorem childrenOf_reform : childrenOf (Table.reform (forms children) fields) = children := by
  have written := Table.get?_reform (distinct_forms children) fields "children"
  rw [childrenOf, written]
  rfl

/-- A field that is shown as text shows the same. -/
theorem text?_reform (name : String) (isText : Table.get? (forms children) name = some textForm) :
    Record.text? (Table.reform (forms children) fields) name = Record.text? fields name := by
  rw [Record.text?, Table.get?_reform (distinct_forms children), isText, Record.text?]
  cases Table.get? fields name with
  | none => rfl
  | some value =>
      cases read : value.asText? with
      | ok text => cases text <;> simp [textForm, read]
      | error reason => simp [textForm, read]

/-- A field that must be text is the same text. -/
theorem string?_reform (name : String)
    (isName : Table.get? (forms children) name = some nameForm) :
    (Table.get? (Table.reform (forms children) fields) name).bind Value.string? =
      (Table.get? fields name).bind Value.string? := by
  rw [Table.get?_reform (distinct_forms children), isName]
  simp only [nameForm]
  cases (Table.get? fields name).bind Value.string? <;> rfl

theorem declaredAction?_reform :
    Renderer.declaredAction? (Table.reform (forms children) fields) =
      Renderer.declaredAction? fields := by
  unfold Renderer.declaredAction?
  rw [string?_reform "action" rfl, string?_reform "target" rfl]

/-- Every presentation shows the same of an object in its form. -/
theorem shown_reform (presentation : Presentation) :
    presentation.shown (Table.reform (forms children) fields) = presentation.shown fields := by
  cases presentation with
  | container primitive => simp only [Presentation.shown, recordField_reform "props" rfl]
  | text =>
      simp only [Presentation.shown, recordField_reform "props" rfl, text?_reform "content" rfl]
  | image =>
      simp only [Presentation.shown, recordField_reform "props" rfl, text?_reform "source" rfl]
  | button =>
      simp only [Presentation.shown, recordField_reform "props" rfl, text?_reform "text" rfl,
        declaredAction?_reform]
  | fallback => rfl

/-- The object that text stands for, with its other fields in their forms. -/
def formedText (text : String) : Record :=
  Table.reform (forms []) (textObject text)

/-- Objects of which the same is read as of text. -/
structure StandsForText (ofText : String → Record) : Prop where
  type (text : String) : typeOf (ofText text) = textType
  style (text : String) : recordField (ofText text) "style" = []
  shown (text : String) (presentation : Presentation) :
    presentation.shown (ofText text) = presentation.shown [("content", .string text)]

theorem standsForText_textObject : StandsForText textObject where
  type _ := rfl
  style _ := rfl
  shown text presentation := by
    apply Presentation.shown_congr
    intro name _ different
    exact if_neg different.symm

theorem standsForText_formedText : StandsForText formedText where
  type text := typeOf_reform.trans (standsForText_textObject.type text)
  style text := (recordField_reform "style" rfl).trans (standsForText_textObject.style text)
  shown text presentation :=
    (shown_reform presentation).trans (standsForText_textObject.shown text presentation)

end Node

namespace Value

variable {ofText : String → Record}

mutual

/-- A component in its canonical description, with objects in place of texts.  What is no
component stays what it is. -/
def canonicalWith (ofText : String → Record) : Value → Value
  | string text => object (ofText text)
  | object fields => object (Table.reform (Node.forms (canonicalChildren ofText fields)) fields)
  | other => other
termination_by structural value => value

/-- The canonical descriptions of the children that an object describes. -/
def canonicalChildren (ofText : String → Record) : List (String × Value) → List Value
  | [] => []
  | (name, value) :: rest =>
      if name = "children" then canonicalItems ofText value else canonicalChildren ofText rest
termination_by structural fields => fields

/-- The canonical descriptions of the items, if the value is a list. -/
def canonicalItems (ofText : String → Record) : Value → List Value
  | array items => canonicalEach ofText items
  | _ => []
termination_by structural value => value

/-- The canonical descriptions of several components. -/
def canonicalEach (ofText : String → Record) : List Value → List Value
  | [] => []
  | item :: rest => canonicalWith ofText item :: canonicalEach ofText rest
termination_by structural items => items

end

/-- A page in its canonical description: an object with nothing but a list of components,
each in its own. -/
def canonicalPageWith (ofText : String → Record) : Value → Value
  | array items => object [("components", array (items.map (canonicalWith ofText)))]
  | object fields =>
      object [("components", array ((object fields).components.map (canonicalWith ofText)))]
  | other => other

/-- The canonical description in which texts are objects with all their fields. -/
def canonicalPage (page : Value) : Value :=
  page.canonicalPageWith Node.formedText

theorem canonicalEach_eq_map (items : List Value) :
    canonicalEach ofText items = items.map (canonicalWith ofText) := by
  induction items with
  | nil => rfl
  | cons item rest ih => rw [canonicalEach, ih, List.map_cons]

theorem canonicalChildren_eq_map (fields : Record) :
    canonicalChildren ofText fields = (Node.childrenOf fields).map (canonicalWith ofText) := by
  induction fields with
  | nil => rfl
  | cons field rest ih =>
      obtain ⟨name, value⟩ := field
      rw [canonicalChildren, Node.childrenOf, Table.get?]
      by_cases here : name = "children"
      · rw [if_pos here, if_pos here]
        cases value with
        | array items => exact canonicalEach_eq_map items
        | _ => rfl
      · rw [if_neg here, if_neg here, ih]
        rfl

/-- An object is described in the forms of its fields, around canonical children. -/
theorem canonicalWith_object (fields : Record) :
    (object fields).canonicalWith ofText =
      object (Table.reform
        (Node.forms ((Node.childrenOf fields).map (canonicalWith ofText))) fields) := by
  rw [canonicalWith, canonicalChildren_eq_map]

/-- An object in its form, around children that are canonical, is canonical. -/
theorem canonicalWith_object_reform {children : List Value} (fields : Record)
    (formed : ∀ child ∈ children, child.canonicalWith ofText = child) :
    (object (Table.reform (Node.forms children) fields)).canonicalWith ofText =
      object (Table.reform (Node.forms children) fields) := by
  have same : children.map (canonicalWith ofText) = children := by
    rw [List.map_congr_left formed, List.map_id']
  rw [canonicalWith_object, Node.childrenOf_reform, same,
    Table.reform_reform (Node.distinct_forms children) (Node.form_form children)]

/-- A canonical description has nothing left to write out, if its texts have all their
fields. -/
theorem canonicalWith_canonicalWith (raw : Value) :
    (raw.canonicalWith Node.formedText).canonicalWith Node.formedText =
      raw.canonicalWith Node.formedText := by
  induction raw using childrenInduction with
  | plain raw noObject =>
      cases raw with
      | string text => exact canonicalWith_object_reform _ (List.forall_mem_nil _)
      | object fields => exact absurd rfl (noObject fields)
      | _ => rfl
  | inner fields ih =>
      rw [canonicalWith_object]
      apply canonicalWith_object_reform
      rw [List.forall_mem_map]
      exact ih

theorem isScalar_canonicalPage (page : Value) :
    page.canonicalPage.isScalar = page.isScalar := by
  cases page <;> rfl

/-- A canonical page has nothing left to write out either. -/
theorem canonicalPage_canonicalPage (page : Value) :
    page.canonicalPage.canonicalPage = page.canonicalPage := by
  have final (raws : List Value) :
      (object [("components",
        array (raws.map (canonicalWith Node.formedText)))]).canonicalPage =
        object [("components", array (raws.map (canonicalWith Node.formedText)))] := by
    have listed : (object [("components",
        array (raws.map (canonicalWith Node.formedText)))]).components =
        raws.map (canonicalWith Node.formedText) := rfl
    rw [canonicalPage, canonicalPageWith, listed, List.map_map]
    simp only [Function.comp_def, canonicalWith_canonicalWith]
  cases page with
  | array items => exact final items
  | object fields => exact final _
  | _ => rfl

end Value

/-! ## Rendering -/

/-- The same is read of a canonical description. -/
theorem Catalogue.readsAlike_canonicalWith {catalogue : Catalogue} {ofText : String → Record}
    (textIsLeaf : catalogue.isContainer Node.textType = false)
    (stands : Node.StandsForText ofText) (raw : Value) :
    catalogue.ReadsAlike raw (raw.canonicalWith ofText) := by
  induction raw using Value.childrenInduction with
  | plain raw noObject =>
      cases raw with
      | string text =>
          rw [Value.canonicalWith]
          exact .leaf rfl rfl textIsLeaf ((typeOf_object _).trans (stands.type text))
            (stands.style text) (stands.shown text _)
      | object fields => exact absurd rfl (noObject fields)
      | _ => exact .same _
  | inner fields ih =>
      rw [Value.canonicalWith_object]
      cases container : catalogue.isContainer (Node.typeOf fields) with
      | true =>
          apply ReadsAlike.container container Node.typeOf_reform
            (Node.recordField_reform "style" rfl) (Node.recordField_reform "props" rfl)
          rw [Node.childrenOf_reform, List.forall₂_map_right_iff, List.forall₂_same]
          exact ih
      | false =>
          rw [← catalogue.typeOf_object] at container
          apply ReadsAlike.leaf rfl rfl container
          · rw [typeOf_object, typeOf_object, Node.typeOf_reform]
          · simp only [Value.shownFields, Node.recordField_reform "style" rfl]
          · simp only [Value.shownFields, Node.shown_reform]

namespace Renderer

variable {renderer : Renderer} {page : Value} {ofText : String → Record}

/-- A page is rendered like its canonical description, except that components that are not
a list are reported in front. -/
theorem renderPage_canonicalPageWith_cases
    (textIsLeaf : renderer.catalogue.isContainer Node.textType = false)
    (stands : Node.StandsForText ofText) (page : Value) :
    renderer.renderPage (page.canonicalPageWith ofText) = renderer.renderPage page ∨
      ∃ kind, renderer.renderPage (page.canonicalPageWith ofText) = .ok renderer.renderEmpty ∧
        renderer.renderPage page =
          .ok (renderer.renderEmpty.reporting (.invalidComponents kind)) := by
  have same (raws : List Value) :
      renderer.renderComponents (raws.map (Value.canonicalWith ofText)) =
        renderer.renderComponents raws := by
    apply renderComponents_of_readsAlike
    rw [List.forall₂_map_right_iff, List.forall₂_same]
    exact fun raw _ => Catalogue.readsAlike_canonicalWith textIsLeaf stands raw
  cases page with
  | array items => exact .inl (congrArg Except.ok (same items))
  | object fields =>
      simp only [Value.canonicalPageWith, Value.components]
      simp only [renderPage, Descriptor.ofValue?, Except.map, renderDescriptor]
      cases Table.get? fields "components" with
      | none => exact .inl rfl
      | some listing =>
          cases listing with
          | null => exact .inl rfl
          | array raws => exact .inl (congrArg Except.ok (same raws))
          | _ => exact .inr ⟨_, rfl, rfl⟩
  | _ => exact .inl rfl

/-- Two pages are rendered to one tree, triggers included, or stop with one fault, with as
many components visited and as many placeholders for each defect. -/
def RendersAlike (renderer : Renderer) (page other : Value) : Prop :=
  ∃ report again, renderer.renderPage page = .ok report ∧
    renderer.renderPage other = .ok again ∧ again.outcome = report.outcome ∧
    again.visited = report.visited ∧ again.placeholders = report.placeholders

/-- Pages that are rendered like one page are rendered alike. -/
theorem RendersAlike.of_common {other common : Value}
    (left : renderer.RendersAlike page common) (right : renderer.RendersAlike other common) :
    renderer.RendersAlike page other := by
  obtain ⟨report, middle, found, common, outcome, visited, placed⟩ := left
  obtain ⟨again, middle', foundAgain, common', outcome', visited', placed'⟩ := right
  obtain rfl : middle = middle' := Except.ok.inj (common.symm.trans common')
  exact ⟨report, again, found, foundAgain, outcome'.symm.trans outcome,
    visited'.symm.trans visited, placed'.symm.trans placed⟩

/-- A page is rendered like its canonical description, whichever objects stand for its
texts. -/
theorem rendersAlike_canonicalPageWith
    (textIsLeaf : renderer.catalogue.isContainer Node.textType = false)
    (stands : Node.StandsForText ofText) (described : page.isScalar = false) :
    renderer.RendersAlike page (page.canonicalPageWith ofText) := by
  obtain ⟨report, found⟩ := renderer.exists_renderPage_eq_ok described
  rcases renderPage_canonicalPageWith_cases textIsLeaf stands page with
    same | ⟨kind, canonical, loose⟩
  · exact ⟨report, report, found, same.trans found, rfl, rfl, rfl⟩
  · exact ⟨_, _, loose, canonical, rfl, rfl, rfl⟩

/-- Loose and canonical descriptions are rendered the same.  Where text is not presented as
a container, an object or a list is rendered like its canonical description, whether texts
are written out as objects of a type and a content only or with all their fields.  In the
latter nothing is left to write out.  So pages with one canonical description are rendered
alike: it does not matter which of the loose forms are written out.  They have a tree unless
they show an integer with too many digits. -/
theorem loose_pages_rendered_alike (renderer : Renderer)
    (textIsLeaf : renderer.catalogue.isContainer Node.textType = false) (page : Value)
    (described : page.isScalar = false) :
    renderer.RendersAlike page (page.canonicalPageWith Node.textObject) ∧
      renderer.RendersAlike page page.canonicalPage ∧
      page.canonicalPage.canonicalPage = page.canonicalPage ∧
      (∀ other, other.canonicalPage = page.canonicalPage → renderer.RendersAlike page other) ∧
      ((∃ tree, renderer.Renders page tree) ↔
        ¬renderer.catalogue.ReachesOverlong page renderer.maxDepth) := by
  have alike (given : Value) (described : given.isScalar = false) :
      renderer.RendersAlike given given.canonicalPage :=
    rendersAlike_canonicalPageWith textIsLeaf Node.standsForText_formedText described
  refine ⟨rendersAlike_canonicalPageWith textIsLeaf Node.standsForText_textObject described,
    alike page described, page.canonicalPage_canonicalPage, ?_, ?_⟩
  · intro other sameForm
    have otherDescribed : other.isScalar = false := by
      rw [← other.isScalar_canonicalPage, sameForm, page.isScalar_canonicalPage, described]
    have otherAlike := alike other otherDescribed
    rw [sameForm] at otherAlike
    exact (alike page described).of_common otherAlike
  · rw [renders_iff_faultless described, Catalogue.firstFault?_eq_none_iff]
    simp [textIsLeaf]

/-- Plain text, a number as content, and fields of the wrong kind, where text is presented as
a button: with the canonical description, and with an object in place of the text only. -/
theorem loose_page_rendered_alike :
    let renderer : Renderer := ⟨Theme.standard,
      ⟨[("box", .container Primitive.view), ("text", .button)], .text⟩, Host.none, 2, Nat.two_pos⟩
    let empty : Value := .object []
    let loose : Value := .object [("type", .string ""), ("content", .int 7), ("action", .bool true)]
    let page : Value := .array [.object [("children", .array [.string "inner", .null]),
      ("type", .string "box"), ("style", .int 3)], loose]
    let halfway : Value := .array [.object [("children", .array
      [.object [("type", .string "text"), ("content", .string "inner")], .null]),
      ("type", .string "box"), ("style", .int 3)], loose]
    let canonical : Value := .object [("components", .array
      [.object [("children", .array
          [.object [("type", .string "text"), ("content", .string "inner"), ("props", empty),
            ("style", empty), ("children", .array [])], .null]),
        ("type", .string "box"), ("style", empty), ("props", empty)],
      .object [("type", .string "unknown"), ("content", .string "7"), ("props", empty),
        ("style", empty), ("children", .array [])]])]
    renderer.catalogue.isContainer Node.textType = false ∧ page.isScalar = false ∧
      page.canonicalPage = canonical ∧ halfway.canonicalPage = canonical ∧
      canonical.canonicalPage = canonical ∧
      renderer.RendersAlike page (page.canonicalPageWith Node.textObject) ∧
      renderer.RendersAlike page canonical ∧ renderer.RendersAlike page halfway := by
  intro renderer empty loose page halfway canonical
  have textIsLeaf : renderer.catalogue.isContainer Node.textType = false := by decide
  have written : page.canonicalPage = canonical := by with_unfolding_all rfl
  have sameForm : halfway.canonicalPage = canonical := by with_unfolding_all rfl
  obtain ⟨alikeObjects, alike, final, alikeOther, -⟩ :=
    loose_pages_rendered_alike renderer textIsLeaf page rfl
  rw [written] at final alike alikeOther
  exact ⟨textIsLeaf, rfl, written, sameForm, final, alikeObjects, alike,
    alikeOther halfway sameForm⟩

/-- Where texts are written out as objects of a type and a content only, something is left
to write out: the other fields of these objects. -/
theorem textObject_page_not_final :
    let page : Value := .array [.string "Hello"]
    let objects := page.canonicalPageWith Node.textObject
    page.isScalar = false ∧ objects = .object [("components", .array [.object
        [("type", .string "text"), ("content", .string "Hello")]])] ∧
      objects.canonicalPageWith Node.textObject = .object [("components", .array [.object
        [("type", .string "text"), ("content", .string "Hello"), ("props", .object []),
          ("style", .object []), ("children", .array [])]])] ∧
      objects.canonicalPageWith Node.textObject ≠ objects := by
  intro page objects
  have once : objects = .object [("components", .array [.object
      [("type", .string "text"), ("content", .string "Hello")]])] := rfl
  have twice : objects.canonicalPageWith Node.textObject =
      .object [("components", .array [.object
        [("type", .string "text"), ("content", .string "Hello"), ("props", .object []),
          ("style", .object []), ("children", .array [])]])] := by
    with_unfolding_all rfl
  refine ⟨rfl, once, twice, ?_⟩
  rw [twice, once]
  simp

end Renderer

end PageTree
