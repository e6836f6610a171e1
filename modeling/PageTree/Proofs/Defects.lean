import PageTree.Proofs.Course
import PageTree.Proofs.Encounters
import PageTree.Proofs.Failure
import PageTree.Proofs.Json.NumberText

/-!
# Defects and placeholders

`Catalogue.defect?` says what is wrong with a component, from the component itself and
not from its rendering.  A rendering makes one placeholder for each defect of a
component that it comes to, and no others (`visit_tallies`), so a page without defects
is rendered without placeholders.
-/

namespace PageTree

namespace Value

/-- Text or a number.  Truth values are no numbers. -/
def isTextual : Value → Bool
  | string _ | int _ | float _ => true
  | _ => false

/-- A number, or text that is not empty. -/
def isTextualNonempty : Value → Bool
  | string text => text ≠ ""
  | int _ | float _ => true
  | _ => false

variable {raw value : Value} {name : String} {text : Option String}

/-- What is read of text and of numbers is shown. -/
theorem isSome_of_asText?_eq_ok (read : value.asText? = .ok text) :
    text.isSome = value.isTextual := by
  cases value with
  | int number =>
      simp only [asText?, Numeral.write] at read
      split at read <;> cases read
      rfl
  | _ =>
      cases read
      rfl

theorem floatText_ne_empty (number : Binary64) : floatText number ≠ "" := by
  intro empty
  have chars := congrArg String.toList empty
  cases number with
  | finite negative rank =>
      rw [floatText, String.toList_ofList] at chars
      exact Json.writeFinite_ne_nil _ _ _ chars
  | infinite negative => cases negative <;> cases chars
  | nan => cases chars

theorem isSome_given? (text : String) :
    (Host.given? (some text)).isSome = decide (text ≠ "") := by
  by_cases empty : text = ""
  · subst text
    rfl
  · rw [Host.given?]
    · simp [empty]
    · rintro ⟨⟩
      exact empty rfl

/-- Numbers are never written as empty text. -/
theorem isSome_given?_of_asText?_eq_ok (read : value.asText? = .ok text) :
    (Host.given? text).isSome = value.isTextualNonempty := by
  cases value with
  | string shown =>
      cases read
      exact isSome_given? shown
  | int number =>
      have written : Numeral.text number ≠ "" := by
        intro empty
        have chars := congrArg String.toList empty
        rw [Numeral.text, String.toList_ofList] at chars
        exact Numeral.signedDigits_ne_nil number chars
      simp only [asText?, Numeral.write] at read
      split at read <;> cases read
      rw [isSome_given?, isTextualNonempty, decide_eq_true written]
  | float number =>
      cases read
      rw [isSome_given?, isTextualNonempty, decide_eq_true (floatText_ne_empty number)]
  | _ =>
      cases read
      rfl

/-- What is judged of a field that was read is judged of its value, if an absent field does
not pass. -/
theorem eq_shows_of_text?_eq_ok {judge : Option String → Bool} {accept : Value → Bool}
    (absent : judge none = false)
    (each : ∀ value text, value.asText? = .ok text → judge text = accept value)
    (read : Record.text? raw.shownFields name = .ok text) :
    judge text = raw.shows name accept := by
  simp only [Record.text?, shows] at read ⊢
  cases found : Table.get? raw.shownFields name with
  | none =>
      rw [found] at read
      cases read
      exact absent
  | some value =>
      rw [found] at read
      exact each value text read

/-- A field is shown as text when it holds text or a number. -/
theorem isSome_of_text?_eq_ok (read : Record.text? raw.shownFields name = .ok text) :
    text.isSome = raw.shows name isTextual :=
  eq_shows_of_text?_eq_ok rfl (fun _ _ => isSome_of_asText?_eq_ok) read

/-- A field is given when it holds a number, or text that is not empty. -/
theorem isSome_given?_of_text?_eq_ok (read : Record.text? raw.shownFields name = .ok text) :
    (Host.given? text).isSome = raw.shows name isTextualNonempty :=
  @eq_shows_of_text?_eq_ok raw name text (fun text => (Host.given? text).isSome) _ rfl
    (fun _ _ => isSome_given?_of_asText?_eq_ok) read

end Value

namespace Catalogue

/-- The defect of a component, if it has one.  What is neither text nor an object is
malformed, at whatever level it stands.  A component may be too deep.  Otherwise its
type may be presented by the fallback, or lack the field that its presentation
shows. -/
def defect? (catalogue : Catalogue) (tooDeep : Bool) (raw : Value) : Option Defect :=
  if raw.isComponent then
    if tooDeep then some .depthExceeded
    else
      match catalogue.presentation (catalogue.typeOf raw) with
      | .container _ => none
      | .text => lacking (raw.shows "content" Value.isTextual)
      | .image => lacking (raw.shows "source" Value.isTextualNonempty)
      | .button => lacking (raw.shows "text" Value.isTextual)
      | .fallback => some .unknownComponentType
  else some .malformedNode
where
  /-- The defect of a component that does not show its field. -/
  lacking (shown : Bool) : Option Defect :=
    if shown then none else some .malformedLeafPayload

/-- The defects of the components encountered within a component, in order. -/
def defectsBelow (catalogue : Catalogue) (levels : Nat) (raw : Value) :
    List (Option Defect) :=
  (catalogue.encountersBelow levels raw).map fun (below, node) =>
    catalogue.defect? (levels ≤ below.length) node

variable {catalogue : Catalogue} {levels : Nat} {raw : Value}

theorem defectsBelow_zero :
    catalogue.defectsBelow 0 raw = [catalogue.defect? true raw] := rfl

theorem defectsBelow_succ :
    catalogue.defectsBelow (levels + 1) raw =
      catalogue.defect? false raw ::
        (catalogue.inner raw).flatMap (catalogue.defectsBelow levels) := by
  rw [defectsBelow, encountersBelow, List.map_cons,
    map_encountersInEach _ (fun (below, node) =>
      catalogue.defect? (levels ≤ below.length) node)]
  · congr 1
  · intro index below node
    simp only [List.length_cons, Nat.add_le_add_iff_right]

/-- A container lacks nothing, unless it is too deep. -/
theorem defect?_container {fields : Record} {primitive : String}
    (presented : catalogue.presentation (Node.typeOf fields) = .container primitive) :
    catalogue.defect? false (.object fields) = none := by
  simp [defect?, Value.isComponent, typeOf_object, presented]

end Catalogue

/-! ## Reports -/

namespace Report

variable {α β : Type} {report : Report α} {following : Report β}
variable {marks later : List (Option Defect)}

/-- A report counts components with such defects: every component once, and its defect,
if it has one. -/
structure Tallies (report : Report α) (marks : List (Option Defect)) : Prop where
  visited : report.visited = marks.length
  placeholders (defect : Defect) : report.placeholders defect = marks.count (some defect)

namespace Tallies

theorem followedBy (tallies : report.Tallies marks) (talliesLater : following.Tallies later) :
    (report.followedBy following).Tallies (marks ++ later) where
  visited := by
    rw [visited_followedBy, tallies.visited, talliesLater.visited, List.length_append]
  placeholders := by
    intro defect
    rw [placeholders_followedBy, tallies.placeholders, talliesLater.placeholders,
      List.count_append]

theorem map (image : α → β) (tallies : report.Tallies marks) :
    (report.map image).Tallies marks :=
  ⟨tallies.visited, tallies.placeholders⟩

/-- A component without a defect is counted and nothing else. -/
theorem counted (tallies : report.Tallies marks) : report.counted.Tallies (none :: marks) where
  visited := by simp [tallies.visited]
  placeholders := by simp [tallies.placeholders]

end Tallies

theorem tallies_result (value : α) : (result value).Tallies [] :=
  ⟨rfl, fun _ => rfl⟩

end Report

namespace Renderer

variable {renderer : Renderer} {levels : Nat} {raw : Value} {raws : List Value}
variable {path : Path} {start : Nat} {element : Element} {elements : List Element}
variable {type : String} {props style payload : Record}

/-- A placeholder is counted for its defect. -/
theorem tallies_flagged {α : Type} (defect : Defect) (key : String) (detail : DefectDetail)
    (value : α) : (flagged defect key detail value).counted.Tallies [some defect] where
  visited := rfl
  placeholders := by
    intro other
    rw [Report.placeholders_counted, placeholders_flagged, List.count_singleton]
    by_cases same : other = defect
    · simp [same]
    · simp [same, Ne.symm same]

/-- What shows a field that was read is counted by what was read. -/
theorem reading_tallies {read : Except Numeral.DigitLimitError (Option String)}
    {next : Option String → Report Element} {marks : List (Option Defect)}
    (yielded : (Report.reading read next).outcome = .ok element)
    (each : ∀ text, read = .ok text → (next text).counted.Tallies marks) :
    (Report.reading read next).counted.Tallies marks := by
  obtain ⟨text, found, -⟩ := (Report.outcome_reading_eq_ok_iff _ _ _).1 yielded
  rw [found]
  exact each text found

/-- A leaf is counted with its own defect. -/
theorem presentLeaf_tallies
    (shape : Node.ofValue renderer.catalogue.isContainer raw = .leaf type props style payload)
    (yielded : (renderer.presentLeaf type props style payload path).outcome = .ok element) :
    (renderer.presentLeaf type props style payload path).counted.Tallies
      [renderer.catalogue.defect? false raw] := by
  obtain ⟨component, typed, rfl⟩ := Catalogue.of_ofValue_eq_leaf shape
  simp only [Catalogue.defect?, component, typed, if_true]
  unfold presentLeaf at yielded ⊢
  generalize renderer.catalogue.presentation type = presentation at yielded ⊢
  cases presentation with
  | container primitive => cases yielded
  | text =>
      apply reading_tallies yielded
      intro content read
      rw [← Value.isSome_of_text?_eq_ok read]
      cases content with
      | some content => exact (Report.tallies_result _).counted
      | none => exact tallies_flagged _ _ _ _
  | image =>
      apply reading_tallies yielded
      intro source read
      rw [← Value.isSome_given?_of_text?_eq_ok read]
      cases Host.given? source with
      | some source => exact (Report.tallies_result _).counted
      | none => exact tallies_flagged _ _ _ _
  | button =>
      obtain ⟨label, labelled, -⟩ := (Report.outcome_map_eq_ok_iff _ _ _).1 yielded
      have tallies : (renderer.presentLabel (identityKey type path) raw.shownFields).counted.Tallies
          [Catalogue.defect?.lacking (raw.shows "text" Value.isTextual)] := by
        apply reading_tallies labelled
        intro text read
        rw [← Value.isSome_of_text?_eq_ok read]
        cases text with
        | some text => exact (Report.tallies_result _).counted
        | none => exact tallies_flagged _ _ _ _
      exact tallies.map _
  | fallback => exact tallies_flagged _ _ _ _

/-- A list is counted with the defects of each component. -/
theorem renderEach_tallies {renderOne : Value → Path → Report Element}
    {defects : Value → List (Option Defect)}
    (each : ∀ raw path element, (renderOne raw path).outcome = .ok element →
      (renderOne raw path).Tallies (defects raw))
    (yielded : (renderEach renderOne path start raws).outcome = .ok elements) :
    (renderEach renderOne path start raws).Tallies (raws.flatMap defects) := by
  induction raws generalizing start elements with
  | nil => exact Report.tallies_result []
  | cons raw raws ih =>
      obtain ⟨first, rest, rfl, firstYielded, restYielded⟩ := renderEach_cons_eq_ok yielded
      rw [renderEach_cons_of_ok firstYielded, List.flatMap_cons]
      exact (each raw _ first firstYielded).followedBy ((ih restYielded).map _)

/-- A rendered component is counted with the defects of all that is encountered in it. -/
theorem visit_tallies
    (yielded : (renderer.visit levels raw path).outcome = .ok element) :
    (renderer.visit levels raw path).Tallies
      (renderer.catalogue.defectsBelow levels raw) := by
  induction levels generalizing raw path element with
  | zero =>
      have spec := renderer.visit_spec 0 raw path
      generalize renderer.visit 0 raw path = report at spec
      rw [Catalogue.defectsBelow_zero, Catalogue.defect?]
      cases spec with
      | malformed _ shape =>
          rw [(Node.ofValue_eq_malformed_iff.1 shape).1]
          exact tallies_flagged _ _ _ _
      | tooDeep shape =>
          rw [Node.isComponent_iff.2 shape]
          have tallies := tallies_flagged .depthExceeded
            (identityKey (renderer.catalogue.typeOf raw) path) .none element
          exact ⟨tallies.visited, tallies.placeholders⟩
  | succ levels ih =>
      have spec := renderer.visit_spec (levels + 1) raw path
      generalize renderer.visit (levels + 1) raw path = report at spec yielded ⊢
      rw [Catalogue.defectsBelow_succ]
      cases spec with
      | malformed _ shape =>
          have childless : renderer.catalogue.inner raw = [] :=
            Node.inner_eq_nil (by simp [shape])
          rw [childless, Catalogue.defect?,
            (Node.ofValue_eq_malformed_iff.1 shape).1]
          exact tallies_flagged _ _ _ _
      | leaf _ shape =>
          have childless : renderer.catalogue.inner raw = [] :=
            Node.inner_eq_nil (by simp [shape])
          rw [childless]
          exact presentLeaf_tallies shape yielded
      | container _ presented =>
          have container := Catalogue.isContainer_iff.2 ⟨_, presented⟩
          rw [Report.outcome_counted, Report.outcome_map_eq_ok_iff] at yielded
          obtain ⟨children, rendered, rfl⟩ := yielded
          rw [Catalogue.inner_object container, Catalogue.defect?_container presented]
          have each : ∀ raw path element,
              (renderer.visit levels raw path).outcome = .ok element →
              (renderer.visit levels raw path).Tallies
                (renderer.catalogue.defectsBelow levels raw) := fun _ _ _ => ih
          exact ((renderEach_tallies each rendered).map _).counted

/-! ## Pages -/

variable {page : Value} {report : Report Element} {tree : Element}

/-- The defects of a page, in the order in which its components are encountered. -/
def defectsOf (renderer : Renderer) (page : Value) : List (Option Defect) :=
  (renderer.catalogue.encounters (renderer.maxDepth + 1) page).map fun (position, node) =>
    renderer.catalogue.defect? (renderer.maxDepth < position.length) node

theorem defectsOf_eq (renderer : Renderer) (page : Value) :
    renderer.defectsOf page =
      page.components.flatMap (renderer.catalogue.defectsBelow renderer.maxDepth) := by
  apply map_encountersInEach
  intro index below node
  simp only [List.length_cons, Nat.lt_succ_iff]

/-- The report of a page that lists components is counted with the defects of the page. -/
theorem renderPage_tallies (listed : page.components ≠ [])
    (found : renderer.renderPage page = .ok report) (yielded : report.outcome = .ok tree) :
    report.Tallies (renderer.defectsOf page) := by
  rw [renderPage_of_listed renderer listed] at found
  cases found
  obtain ⟨children, rendered, rfl, course⟩ := renderComponents_of_ok listed yielded
  have each : ∀ raw path element,
      (renderer.visit renderer.maxDepth raw path).outcome = .ok element →
      (renderer.visit renderer.maxDepth raw path).Tallies
        (renderer.catalogue.defectsBelow renderer.maxDepth raw) := fun _ _ _ => visit_tallies
  have tallies := renderEach_tallies each rendered
  rw [course, defectsOf_eq]
  exact ⟨tallies.visited, tallies.placeholders⟩

/-- Clean pages.  In a page that lists components and is rendered to a tree, there are
for each defect as many placeholders as components that are encountered and have this
defect.  The encountered components are those that a position of at most `maxDepth + 1`
indices leads to, each once.  So there are no placeholders at all exactly when none of
them has a defect. -/
theorem placeholders_count_defects (listed : page.components ≠ [])
    (found : renderer.renderPage page = .ok report) (yielded : report.outcome = .ok tree) :
    let encounters := renderer.catalogue.encounters (renderer.maxDepth + 1) page
    (encounters.map Prod.fst).Nodup ∧
      (∀ position node, (position, node) ∈ encounters ↔
        position.length ≤ renderer.maxDepth + 1 ∧
          renderer.catalogue.componentAt? page position = some node) ∧
      report.visited = encounters.length ∧
      (∀ defect, report.placeholders defect = encounters.countP fun (position, node) =>
        renderer.catalogue.defect? (renderer.maxDepth < position.length) node =
          some defect) ∧
      ((∀ defect, report.placeholders defect = 0) ↔
        ∀ position node, position.length ≤ renderer.maxDepth + 1 →
          renderer.catalogue.componentAt? page position = some node →
          renderer.catalogue.defect? (renderer.maxDepth < position.length) node = none) := by
  intro encounters
  obtain ⟨visited, placeholders⟩ := renderPage_tallies listed found yielded
  refine ⟨Catalogue.nodup_encounters _ _ _, fun _ _ => Catalogue.mem_encounters, ?_, ?_, ?_⟩
  · rw [visited, defectsOf, List.length_map]
  · intro defect
    rw [placeholders, defectsOf, List.count, List.countP_map]
    apply List.countP_congr
    simp
  · simp only [placeholders, List.count_eq_zero, defectsOf, List.mem_map, Prod.exists,
      Catalogue.mem_encounters]
    constructor
    · intro clean position node short reached
      rw [Option.eq_none_iff_forall_ne_some]
      intro defect same
      exact clean defect ⟨position, node, ⟨short, reached⟩, same⟩
    · rintro clean defect ⟨position, node, ⟨short, reached⟩, same⟩
      rw [clean position node short reached] at same
      cases same

/-- Each way to be defective in one page: null and text beyond the limit, an unknown
type, and a text, an image and a button that lack their fields. -/
theorem placeholders_of_every_kind :
    let renderer : Renderer :=
      ⟨Theme.standard, Catalogue.standard, Host.none, 1, Nat.one_pos⟩
    let page : Value := .array [.object [("type", .string "container"),
        ("children", .array [.null, .string "deep", .object []])],
      .object [("type", .string "card")], .object [("type", .string "text")],
      .object [("type", .string "image"), ("source", .string "")],
      .object [("type", .string "button"), ("text", .bool true)], .string "sound"]
    page.components ≠ [] ∧ ∃ report tree, renderer.renderPage page = .ok report ∧
      report.outcome = .ok tree ∧ report.visited = 9 ∧
      Defect.all.map report.placeholders = [0, 0, 1, 3, 1, 2] := by
  intro renderer page
  have listed : page.components ≠ [] := List.cons_ne_nil _ _
  have described : page.isScalar = false := rfl
  obtain ⟨tree, report, found, yielded⟩ := renderer.exists_renders described (by rfl)
  obtain ⟨-, -, visited, placeholders, -⟩ := placeholders_count_defects listed found yielded
  refine ⟨listed, report, tree, found, yielded, ?_, ?_⟩
  · rw [visited]
    decide
  · simp only [Defect.all, List.map_cons, List.map_nil, placeholders]
    decide

end Renderer

end PageTree
