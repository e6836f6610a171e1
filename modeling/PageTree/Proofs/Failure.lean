import PageTree.Proofs.Digits
import PageTree.Proofs.Encounters
import PageTree.Proofs.Walk

/-!
# When rendering fails

Whatever is inside a page, rendering it goes on to the end, with two exceptions.
Text that stands for a component is a leaf of type `text`; where the catalogue
presents that type as a container, there are no children to present.  And a leaf that
shows a number as text has to write it, which is refused for an integer with too many
digits.  Either way the walk stops with a fault.

`Catalogue.fault?` says from a component itself whether it is at fault.  The walk stops
at the first component that it comes to and that is (`failure?_visit`), so a page fails
exactly when it has such a component, at a level that is still rendered, and scalars are
no pages at all.
-/

namespace PageTree

namespace Value

/-- An integer with more digits than are written. -/
def isOverlong : Value → Bool
  | int number => Numeral.isOverlong number
  | _ => false

/-- Whether a component has a field with such a value. -/
def shows (raw : Value) (name : String) (accept : Value → Bool) : Bool :=
  match Table.get? raw.shownFields name with
  | some value => accept value
  | none => false

/-- Nothing but an integer with too many digits is at fault as text. -/
theorem asText?_eq_error_iff {value : Value} {reason : Numeral.DigitLimitError} :
    value.asText? = .error reason ↔ value.isOverlong = true := by
  cases value with
  | int number =>
      simp only [asText?, isOverlong, Numeral.write]
      cases Numeral.isOverlong number <;> simp [Except.map]
  | _ => simp [asText?, isOverlong]

theorem text?_eq_error_iff {raw : Value} {name : String} {reason : Numeral.DigitLimitError} :
    Record.text? raw.shownFields name = .error reason ↔ raw.shows name isOverlong = true := by
  simp only [Record.text?, shows]
  cases Table.get? raw.shownFields name with
  | none => simp
  | some value => exact asText?_eq_error_iff

end Value

namespace Catalogue

/-- Whether what a component shows is an integer with too many digits. -/
def showsOverlong (catalogue : Catalogue) (raw : Value) : Bool :=
  match catalogue.presentation (catalogue.typeOf raw) with
  | .text => raw.shows "content" Value.isOverlong
  | .image => raw.shows "source" Value.isOverlong
  | .button => raw.shows "text" Value.isOverlong
  | .container _ | .fallback => false

/-- The fault of a component, if it has one. -/
def fault? (catalogue : Catalogue) (raw : Value) : Option RenderFault :=
  if catalogue.isContainer Node.textType && raw.string?.isSome then some .childlessContainer
  else if catalogue.showsOverlong raw then some .overlongInteger
  else none

/-- The first fault that is encountered within a component, at so many levels. -/
def faultBelow? (catalogue : Catalogue) (levels : Nat) (raw : Value) :
    Option RenderFault :=
  match levels with
  | 0 => none
  | levels + 1 =>
      (catalogue.encountersBelow levels raw).findSome? fun place => catalogue.fault? place.2

/-- The first fault that is encountered in a page, at so many levels. -/
def firstFault? (catalogue : Catalogue) (levels : Nat) (page : Value) :
    Option RenderFault :=
  (catalogue.encounters levels page).findSome? fun place => catalogue.fault? place.2

/-- A component of a page, at one of the first `depth` levels, is plain text. -/
def ReachesText (catalogue : Catalogue) (page : Value) (depth : Nat) : Prop :=
  ∃ position text, position.length ≤ depth ∧
    catalogue.componentAt? page position = some (.string text)

/-- A component of a page, at one of the first `depth` levels, shows an integer with too
many digits. -/
def ReachesOverlong (catalogue : Catalogue) (page : Value) (depth : Nat) : Prop :=
  ∃ position node, position.length ≤ depth ∧
    catalogue.componentAt? page position = some node ∧ catalogue.showsOverlong node = true

/-- A component inside another one, at one of its first `levels` levels, shows an integer
with too many digits. -/
def HoldsOverlong (catalogue : Catalogue) (raw : Value) (levels : Nat) : Prop :=
  ∃ below node, below.length < levels ∧
    catalogue.descendant? raw below = some node ∧ catalogue.showsOverlong node = true

variable {catalogue : Catalogue} {levels depth : Nat} {raw page : Value} {kind : String}

/-! ## The fault of one component -/

/-- A component without such a field shows no such integer. -/
theorem showsOverlong_eq_false (plain : ∀ name, raw.shows name Value.isOverlong = false) :
    catalogue.showsOverlong raw = false := by
  unfold showsOverlong
  split <;> first | exact plain _ | rfl

/-- Text shows itself and no number. -/
theorem showsOverlong_string (text : String) :
    catalogue.showsOverlong (.string text) = false := by
  apply showsOverlong_eq_false
  intro name
  by_cases content : "content" = name
  · simp [Value.shows, Value.shownFields, Table.get?, content, Value.isOverlong]
  · simp [Value.shows, Value.shownFields, Table.get?, content]

theorem fault?_eq_childlessContainer_iff :
    catalogue.fault? raw = some .childlessContainer ↔
      catalogue.isContainer Node.textType = true ∧ ∃ text, raw = .string text := by
  unfold fault?
  cases raw <;> simp [Value.string?]

theorem fault?_eq_overlongInteger_iff :
    catalogue.fault? raw = some .overlongInteger ↔ catalogue.showsOverlong raw = true := by
  cases raw with
  | string text =>
      simp only [fault?, showsOverlong_string]
      split <;> simp
  | _ => simp [fault?, Value.string?]

/-- A malformed component shows nothing. -/
theorem fault?_of_malformed
    (shape : Node.ofValue catalogue.isContainer raw = .malformed kind) :
    catalogue.fault? raw = none := by
  have malformed := (Node.ofValue_eq_malformed_iff.1 shape).1
  have silent : catalogue.showsOverlong raw = false := by
    apply showsOverlong_eq_false
    cases raw <;> first | exact fun _ => rfl | cases malformed
  cases raw with
  | string | object => cases malformed
  | _ => simp [fault?, Value.string?, silent]

/-- A leaf of a type that is no container can only show too long an integer. -/
theorem fault?_of_leaf {type : String} {props style payload : Record}
    (shape : Node.ofValue catalogue.isContainer raw = .leaf type props style payload)
    (other : catalogue.isContainer type = false) :
    catalogue.fault? raw =
      if catalogue.showsOverlong raw then some .overlongInteger else none := by
  rcases Node.of_ofValue_leaf shape with ⟨text, rfl, rfl⟩ | ⟨fields, rfl, -⟩
  · simp [fault?, other]
  · simp [fault?, Value.string?]

/-- An object of a container type shows no number. -/
theorem fault?_of_container {fields : Record} {primitive : String}
    (presented : catalogue.presentation (Node.typeOf fields) = .container primitive) :
    catalogue.fault? (.object fields) = none := by
  simp [fault?, Value.string?, showsOverlong, typeOf_object, presented]

/-! ## The first fault -/

/-- A component is at fault itself or inside. -/
theorem faultBelow?_succ :
    catalogue.faultBelow? (levels + 1) raw =
      (catalogue.fault? raw).or
        ((catalogue.inner raw).findSome? (catalogue.faultBelow? levels)) := by
  cases levels with
  | zero =>
      have nothing : (catalogue.inner raw).findSome? (catalogue.faultBelow? 0) = none :=
        List.findSome?_eq_none_iff.2 fun _ _ => rfl
      rw [nothing, Option.or_none, faultBelow?, encountersBelow, List.findSome?_singleton]
  | succ levels =>
      rw [faultBelow?, encountersBelow, List.findSome?_cons,
        findSome?_encountersInEach _ (fun place => catalogue.fault? place.2)
          fun _ _ _ => rfl]
      cases catalogue.fault? raw <;> rfl

theorem firstFault?_eq (catalogue : Catalogue) (levels : Nat) (page : Value) :
    catalogue.firstFault? levels page =
      page.components.findSome? (catalogue.faultBelow? levels) := by
  cases levels with
  | zero => exact (List.findSome?_eq_none_iff.2 fun _ _ => rfl).symm
  | succ levels => exact findSome?_encountersInEach _ _ fun _ _ _ => rfl

/-- A page has no fault when none of the components within so many levels has one. -/
theorem firstFault?_eq_none_iff :
    catalogue.firstFault? depth page = none ↔
      ¬(catalogue.isContainer Node.textType = true ∧ catalogue.ReachesText page depth) ∧
        ¬catalogue.ReachesOverlong page depth := by
  simp only [firstFault?, List.findSome?_eq_none_iff, Prod.forall, mem_encounters]
  constructor
  · intro faultless
    constructor
    · rintro ⟨container, position, text, short, reached⟩
      have atFault := fault?_eq_childlessContainer_iff.2 ⟨container, text, rfl⟩
      cases (faultless position _ ⟨short, reached⟩).symm.trans atFault
    · rintro ⟨position, node, short, reached, overlong⟩
      have atFault := fault?_eq_overlongInteger_iff.2 overlong
      cases (faultless position _ ⟨short, reached⟩).symm.trans atFault
  · rintro ⟨textless, short⟩ position node ⟨within, reached⟩
    cases atFault : catalogue.fault? node with
    | none => rfl
    | some reason =>
        exfalso
        cases reason with
        | childlessContainer =>
            obtain ⟨container, text, rfl⟩ := fault?_eq_childlessContainer_iff.1 atFault
            exact textless ⟨container, position, text, within, reached⟩
        | overlongInteger =>
            exact short ⟨position, node, within, reached,
              fault?_eq_overlongInteger_iff.1 atFault⟩

/-- Where text is not presented as a container, only integers that are too long to be
shown are faults inside a component. -/
theorem faultBelow?_eq_none_iff (textIsLeaf : catalogue.isContainer Node.textType = false) :
    catalogue.faultBelow? levels raw = none ↔ ¬catalogue.HoldsOverlong raw levels := by
  have sound (node : Value) : catalogue.fault? node = none ↔
      catalogue.showsOverlong node = false := by
    simp [fault?, textIsLeaf]
  cases levels with
  | zero => simp [faultBelow?, HoldsOverlong]
  | succ levels =>
      simp only [faultBelow?, HoldsOverlong, List.findSome?_eq_none_iff, Prod.forall,
        mem_encountersBelow, sound, Nat.lt_succ_iff, not_exists, not_and, Bool.not_eq_true,
        and_imp]

/-- Every fault of a page is that of a component. -/
theorem exists_of_firstFault?_eq_some {reason : RenderFault}
    (atFault : catalogue.firstFault? depth page = some reason) :
    ∃ position node, position.length ≤ depth ∧
      catalogue.componentAt? page position = some node ∧
        catalogue.fault? node = some reason := by
  obtain ⟨⟨position, node⟩, member, found⟩ := List.exists_of_findSome?_eq_some atFault
  obtain ⟨short, reached⟩ := mem_encounters.1 member
  exact ⟨position, node, short, reached, found⟩

/-- Where no component has another fault, a page has the fault that one of its components
has. -/
theorem firstFault?_eq_some_iff {reason : RenderFault}
    (only : ∀ position node other, position.length ≤ depth →
      catalogue.componentAt? page position = some node →
      catalogue.fault? node = some other → other = reason) :
    catalogue.firstFault? depth page = some reason ↔
      ∃ position node, position.length ≤ depth ∧
        catalogue.componentAt? page position = some node ∧
          catalogue.fault? node = some reason := by
  constructor
  · exact exists_of_firstFault?_eq_some
  · rintro ⟨position, node, short, reached, found⟩
    have faulty : catalogue.firstFault? depth page ≠ none := by
      intro faultless
      have each := List.findSome?_eq_none_iff.1 faultless (position, node)
      cases (each (mem_encounters.2 ⟨short, reached⟩)).symm.trans found
    obtain ⟨other, atFault⟩ := Option.ne_none_iff_exists'.1 faulty
    obtain ⟨otherPosition, otherNode, otherShort, otherReached, otherFound⟩ :=
      exists_of_firstFault?_eq_some atFault
    rw [atFault, only _ _ _ otherShort otherReached otherFound]

/-- Where no integer is too long to be shown, text as a container is the only fault. -/
theorem firstFault?_eq_childlessContainer_iff
    (short : ¬catalogue.ReachesOverlong page depth) :
    catalogue.firstFault? depth page = some .childlessContainer ↔
      catalogue.isContainer Node.textType = true ∧ catalogue.ReachesText page depth := by
  rw [firstFault?_eq_some_iff]
  · simp only [fault?_eq_childlessContainer_iff]
    constructor
    · rintro ⟨position, _, within, reached, container, text, rfl⟩
      exact ⟨container, position, text, within, reached⟩
    · rintro ⟨container, position, text, within, reached⟩
      exact ⟨position, _, within, reached, container, text, rfl⟩
  · intro position node other within reached found
    cases other with
    | childlessContainer => rfl
    | overlongInteger =>
        exact absurd ⟨position, node, within, reached,
          fault?_eq_overlongInteger_iff.1 found⟩ short

/-- Where text is not presented as a container, an integer too long to be shown is the
only fault. -/
theorem firstFault?_eq_overlongInteger_iff
    (textIsLeaf : catalogue.isContainer Node.textType = false) :
    catalogue.firstFault? depth page = some .overlongInteger ↔
      catalogue.ReachesOverlong page depth := by
  rw [firstFault?_eq_some_iff]
  · simp only [fault?_eq_overlongInteger_iff, ReachesOverlong]
  · intro position node other _ _ found
    cases other with
    | overlongInteger => rfl
    | childlessContainer =>
        have container := (fault?_eq_childlessContainer_iff.1 found).1
        cases textIsLeaf.symm.trans container

end Catalogue

namespace Renderer

variable {renderer : Renderer} {levels : Nat} {raw page : Value} {path : Path}
variable {type : String} {props style payload : Record} {reason : RenderFault}

/-! ## The walk stops at the first fault -/

/-- What shows a field of a component fails when the field cannot be written. -/
theorem failure?_reading {name : String} {next : Option String → Report Element}
    (sound : ∀ text, (next text).failure? = none) :
    (Report.reading (Record.text? raw.shownFields name) next).failure? =
      if raw.shows name Value.isOverlong then some .overlongInteger else none := by
  cases read : Record.text? raw.shownFields name with
  | error reason => rw [Value.text?_eq_error_iff.1 read, Report.reading_error]; rfl
  | ok text =>
      have short : raw.shows name Value.isOverlong ≠ true := by
        intro overlong
        have refused : Record.text? raw.shownFields name = .error ⟨⟩ :=
          Value.text?_eq_error_iff.2 overlong
        cases read.symm.trans refused
      rw [if_neg short, Report.reading_ok, sound]

/-- A leaf fails with its own fault. -/
theorem failure?_presentLeaf
    (shape : Node.ofValue renderer.catalogue.isContainer raw =
      .leaf type props style payload) :
    (renderer.presentLeaf type props style payload path).failure? =
      renderer.catalogue.fault? raw := by
  obtain ⟨-, typed, rfl⟩ := Catalogue.of_ofValue_eq_leaf shape
  cases container : renderer.catalogue.isContainer type with
  | true =>
      obtain ⟨primitive, presented⟩ := Catalogue.isContainer_iff.1 container
      rcases Node.of_ofValue_leaf shape with ⟨text, rfl, rfl⟩ | ⟨fields, rfl, other⟩
      · rw [Catalogue.fault?_eq_childlessContainer_iff.2 ⟨container, text, rfl⟩]
        simp [presentLeaf, presented]
      · rw [container] at other
        cases other
  | false =>
      rw [Catalogue.fault?_of_leaf shape container, Catalogue.showsOverlong, typed]
      unfold presentLeaf
      unfold Catalogue.isContainer at container
      generalize renderer.catalogue.presentation type = presentation at container
      cases presentation with
      | container primitive => cases container
      | text =>
          apply failure?_reading
          intro content
          cases content <;> rfl
      | image =>
          apply failure?_reading
          intro source
          cases Host.given? source <;> rfl
      | button =>
          simp only [presentButton, presentLabel, Report.failure?_map]
          apply failure?_reading
          intro text
          cases text <;> rfl
      | fallback => rfl

/-- Rendering a component fails with the first fault inside it, at the levels that are
left. -/
theorem failure?_visit :
    (renderer.visit levels raw path).failure? =
      renderer.catalogue.faultBelow? levels raw := by
  induction levels generalizing raw path with
  | zero =>
      have spec := renderer.visit_spec 0 raw path
      generalize renderer.visit 0 raw path = report at spec
      cases spec <;> rfl
  | succ levels ih =>
      have spec := renderer.visit_spec (levels + 1) raw path
      generalize renderer.visit (levels + 1) raw path = report at spec
      rw [Catalogue.faultBelow?_succ]
      cases spec with
      | malformed _ shape =>
          have childless : renderer.catalogue.inner raw = [] :=
            Node.inner_eq_nil (by simp [shape])
          rw [childless, Catalogue.fault?_of_malformed shape]
          rfl
      | leaf _ shape =>
          have childless : renderer.catalogue.inner raw = [] :=
            Node.inner_eq_nil (by simp [shape])
          rw [childless, List.findSome?_nil, Option.or_none, Report.failure?_counted,
            failure?_presentLeaf shape]
      | container _ presented =>
          have container := Catalogue.isContainer_iff.2 ⟨_, presented⟩
          have each (raw : Value) (path : Path) : (renderer.visit levels raw path).failure? =
              renderer.catalogue.faultBelow? levels raw := ih
          rw [Report.failure?_counted, Report.failure?_map, failure?_renderEach each,
            Catalogue.inner_object container, Catalogue.fault?_of_container presented,
            Option.none_or]

/-- So does rendering a list of components. -/
theorem failure?_renderChildren (renderer : Renderer) (raws : List Value) (path : Path) :
    (renderer.renderChildren raws path).failure? =
      raws.findSome? (renderer.catalogue.faultBelow? (renderer.maxDepth - path.length)) :=
  failure?_renderEach fun _ _ => failure?_visit

/-- A described page fails with the first fault in it. -/
theorem failure?_renderPage {report : Report Element} (described : page.isScalar = false)
    (found : renderer.renderPage page = .ok report) :
    report.failure? = renderer.catalogue.firstFault? renderer.maxDepth page := by
  rw [Catalogue.firstFault?_eq]
  by_cases unlisted : page.components = []
  · obtain ⟨other, tree, same, yielded, -⟩ :=
      renderer.renderPage_of_components_eq_nil described unlisted
    obtain rfl : report = other := Except.ok.inj (found.symm.trans same)
    rw [unlisted, Report.failure?_eq_none_iff.2 ⟨tree, yielded⟩, List.findSome?_nil]
  · obtain ⟨other, same, outcome⟩ :=
      renderer.renderPage_of_components_ne_nil unlisted
    obtain rfl : report = other := Except.ok.inj (found.symm.trans same)
    rw [Report.failure?, outcome, ← Report.failure?, Report.failure?_map,
      failure?_renderChildren, List.length_nil, Nat.sub_zero]

/-- A described page is rendered, with or without a fault. -/
theorem exists_renderPage_eq_ok (renderer : Renderer) (described : page.isScalar = false) :
    ∃ report, renderer.renderPage page = .ok report := by
  cases page with
  | null | array items | object fields => exact ⟨_, rfl⟩
  | _ => cases described

/-- The described pages that have a tree are those without a fault. -/
theorem renders_iff_faultless (described : page.isScalar = false) :
    (∃ tree, renderer.Renders page tree) ↔
      renderer.catalogue.firstFault? renderer.maxDepth page = none := by
  obtain ⟨report, found⟩ := renderer.exists_renderPage_eq_ok described
  rw [← failure?_renderPage described found, Report.failure?_eq_none_iff]
  constructor
  · rintro ⟨tree, other, same, yielded⟩
    obtain rfl : report = other := Except.ok.inj (found.symm.trans same)
    exact ⟨tree, yielded⟩
  · rintro ⟨tree, yielded⟩
    exact ⟨tree, report, found, yielded⟩

theorem exists_renders (renderer : Renderer) (described : page.isScalar = false)
    (faultless : renderer.catalogue.firstFault? renderer.maxDepth page = none) :
    ∃ tree, renderer.Renders page tree :=
  (renders_iff_faultless described).2 faultless

/-- When rendering fails.  Scalars are refused as descriptors, and nothing else is.
Any other page fails with the fault of the first component that is at fault, at a level
within the limit.  It has a tree exactly when no such component shows an integer with too
many digits and none is plain text where text is presented as a container.  Without
such integers only the latter fails, and where text is not presented as a container only
such integers do. -/
theorem renderPage_fails_iff (renderer : Renderer) (page : Value) :
    ((∃ reason, renderer.renderPage page = .error reason) ↔ page.isScalar = true) ∧
      (page.isScalar = true →
        renderer.renderPage page = .error (.wrongKind page.kindName)) ∧
      (page.isScalar = false → ∃ report, renderer.renderPage page = .ok report ∧
        (∀ fault, report.outcome = .error fault ↔
          renderer.catalogue.firstFault? renderer.maxDepth page = some fault) ∧
        ((∃ tree, report.outcome = .ok tree) ↔
          ¬(renderer.catalogue.isContainer Node.textType = true ∧
              renderer.catalogue.ReachesText page renderer.maxDepth) ∧
            ¬renderer.catalogue.ReachesOverlong page renderer.maxDepth) ∧
        (¬renderer.catalogue.ReachesOverlong page renderer.maxDepth →
          (report.outcome = .error .childlessContainer ↔
            renderer.catalogue.isContainer Node.textType = true ∧
              renderer.catalogue.ReachesText page renderer.maxDepth)) ∧
        (renderer.catalogue.isContainer Node.textType = false →
          (report.outcome = .error .overlongInteger ↔
            renderer.catalogue.ReachesOverlong page renderer.maxDepth))) ∧
      (renderer.catalogue.isContainer Node.textType = false → page.isScalar = false →
        ¬renderer.catalogue.ReachesOverlong page renderer.maxDepth →
        ∃ tree, renderer.Renders page tree) := by
  refine ⟨?_, renderPage_of_isScalar, ?_, ?_⟩
  · constructor
    · rintro ⟨reason, refused⟩
      cases scalar : page.isScalar with
      | true => rfl
      | false =>
          obtain ⟨report, found⟩ := renderer.exists_renderPage_eq_ok scalar
          cases refused.symm.trans found
    · intro scalar
      exact ⟨_, renderPage_of_isScalar scalar⟩
  · intro described
    obtain ⟨report, found⟩ := renderer.exists_renderPage_eq_ok described
    have failure := failure?_renderPage described found
    have fails (fault : RenderFault) : report.outcome = .error fault ↔
        renderer.catalogue.firstFault? renderer.maxDepth page = some fault := by
      rw [← Report.failure?_eq_some_iff, failure]
    refine ⟨report, found, fails, ?_, ?_, ?_⟩
    · rw [← Report.failure?_eq_none_iff, failure, Catalogue.firstFault?_eq_none_iff]
    · intro short
      rw [fails, Catalogue.firstFault?_eq_childlessContainer_iff short]
    · intro textIsLeaf
      rw [fails, Catalogue.firstFault?_eq_overlongInteger_iff textIsLeaf]
  · intro textIsLeaf described short
    have faultless : renderer.catalogue.firstFault? renderer.maxDepth page = none :=
      Catalogue.firstFault?_eq_none_iff.2 ⟨by simp [textIsLeaf], short⟩
    exact renderer.exists_renders described faultless

/-- Text inside a container fails at the last level within the limit. -/
theorem text_at_limit_fails :
    let renderer : Renderer :=
      ⟨Theme.standard, ⟨Catalogue.builtIn.erase "text", .container Primitive.view⟩,
        Host.none, 2, Nat.two_pos⟩
    let page : Value := .array [.int 1, .object [("children", .array [.string "inner"])]]
    ∃ report, renderer.renderPage page = .ok report ∧
      report.outcome = .error .childlessContainer := by
  intro renderer page
  obtain ⟨report, found, fails, -⟩ := (renderPage_fails_iff renderer page).2.2.1 rfl
  exact ⟨report, found, (fails _).2 (by rfl)⟩

/-- A text component whose content is the least integer with too many digits has no tree,
although text is not presented as a container. -/
theorem overlong_content_fails :
    let renderer := Renderer.standard Host.none
    let page : Value := .object [("components", .array [.object [("type", .string "text"),
      ("content", .int (Numeral.tenTo Numeral.digitLimit))]])]
    renderer.catalogue.isContainer Node.textType = false ∧ page.isScalar = false ∧
      ∃ report, renderer.renderPage page = .ok report ∧
        report.outcome = .error .overlongInteger ∧ ∀ tree, report.outcome ≠ .ok tree := by
  intro renderer page
  have textIsLeaf : renderer.catalogue.isContainer Node.textType = false := by decide
  have described : page.isScalar = false := rfl
  have shown (number : Int) (overlong : Numeral.isOverlong number = true) :
      renderer.catalogue.showsOverlong
        (.object [("type", .string "text"), ("content", .int number)]) = true := overlong
  have overlong : Numeral.isOverlong (Numeral.tenTo Numeral.digitLimit) = true :=
    (Numeral.isOverlong_iff _).2 (Nat.le_of_eq (Int.natAbs_natCast _).symm)
  have reached : renderer.catalogue.ReachesOverlong page renderer.maxDepth :=
    ⟨[0], _, by decide, rfl, shown _ overlong⟩
  obtain ⟨report, found⟩ := renderer.exists_renderPage_eq_ok described
  have failure := failure?_renderPage described found
  rw [(Catalogue.firstFault?_eq_overlongInteger_iff textIsLeaf).2 reached,
    Report.failure?_eq_some_iff] at failure
  refine ⟨textIsLeaf, described, report, found, failure, ?_⟩
  rintro tree yielded
  cases failure.symm.trans yielded

end Renderer

end PageTree
