import PageTree.Renderer

/-!
# Outcomes

What a report comes to, apart from its counts and events: the value it yields or
the fault that stopped it.  Each way to put reports together has an equation or
an equivalence here, so proofs about rendered trees never open a report.

A list of components is rendered position by position.  `Drawn` says that a list
of elements holds the rendering of every component at its own index, and
`renderEach_eq_ok_iff` that these lists are exactly what `renderEach` yields.
-/

namespace PageTree

namespace Report

variable {α β : Type} {reason : RenderFault}

@[simp] theorem outcome_result (value : α) : (result value).outcome = .ok value := rfl

@[simp] theorem outcome_fault (reason : RenderFault) :
    (fault reason : Report α).outcome = .error reason := rfl

@[simp] theorem outcome_counted (report : Report α) :
    report.counted.outcome = report.outcome := rfl

@[simp] theorem outcome_reporting (event : Event) (report : Report α) :
    (report.reporting event).outcome = report.outcome := rfl

/-- A changed result comes from an unchanged one. -/
@[simp] theorem outcome_map_eq_ok_iff (image : α → β) (report : Report α) (value : β) :
    (report.map image).outcome = .ok value ↔
      ∃ before, report.outcome = .ok before ∧ image before = value := by
  unfold map
  cases report.outcome <;> simp [Except.map]

theorem outcome_map (image : α → β) (report : Report α) :
    (report.map image).outcome = report.outcome.map image := rfl

/-- A report that goes on comes to what its second part does, unless the first fails. -/
theorem outcome_andThen (report : Report α) (next : α → Report β) :
    (report.andThen next).outcome = report.outcome.bind fun first => (next first).outcome := by
  unfold andThen
  cases report.outcome <;> rfl

/-- A report that goes on yields a value when both of its parts do. -/
theorem outcome_andThen_eq_ok_iff (report : Report α) (next : α → Report β) (value : β) :
    (report.andThen next).outcome = .ok value ↔
      ∃ first, report.outcome = .ok first ∧ (next first).outcome = .ok value := by
  unfold andThen
  split <;> simp_all

/-- What goes on with a field yields a value when the field was read and leads to it. -/
theorem outcome_reading_eq_ok_iff (read : Except Numeral.DigitLimitError α)
    (next : α → Report β) (value : β) :
    (reading read next).outcome = .ok value ↔
      ∃ first, read = .ok first ∧ (next first).outcome = .ok value := by
  cases read <;> simp

/-! ### Faults -/

/-- The fault that stopped a report, if one did. -/
def failure? (report : Report α) : Option RenderFault :=
  match report.outcome with
  | .ok _ => none
  | .error reason => some reason

variable {report : Report α}

theorem failure?_eq_some_iff : report.failure? = some reason ↔ report.outcome = .error reason := by
  unfold failure?
  cases report.outcome <;> simp

theorem failure?_eq_none_iff : report.failure? = none ↔ ∃ value, report.outcome = .ok value := by
  unfold failure?
  cases report.outcome <;> simp

@[simp] theorem failure?_result (value : α) : (result value).failure? = none := rfl

@[simp] theorem failure?_fault (reason : RenderFault) :
    (fault reason : Report α).failure? = some reason := rfl

@[simp] theorem failure?_counted (report : Report α) :
    report.counted.failure? = report.failure? := rfl

@[simp] theorem failure?_reporting (event : Event) (report : Report α) :
    (report.reporting event).failure? = report.failure? := rfl

@[simp] theorem failure?_map (image : α → β) (report : Report α) :
    (report.map image).failure? = report.failure? := by
  unfold failure? map
  cases report.outcome <;> rfl

/-- Behind a value, a report fails as what follows. -/
theorem failure?_andThen_of_ok {value : α} (next : α → Report β)
    (yielded : report.outcome = .ok value) :
    (report.andThen next).failure? = (next value).failure? := by
  simp [andThen, failure?, yielded]

end Report

namespace Renderer

@[simp] theorem outcome_flagged {α : Type} (defect : Defect) (key : String)
    (detail : DefectDetail) (value : α) :
    (flagged defect key detail value).outcome = .ok value := rfl

@[simp] theorem failure?_flagged {α : Type} (defect : Defect) (key : String)
    (detail : DefectDetail) (value : α) :
    (flagged defect key detail value).failure? = none := rfl

@[simp] theorem outcome_concluding {α : Type} (report : Report α) (event : Event) :
    (concluding report event).outcome = report.outcome := by
  unfold concluding Report.andThen
  split <;> simp_all

/-! ## Lists of components -/

/-- The elements are the renderings of the components, one for each and in their
order, the first of them at `start` below a path. -/
def Drawn (renderOne : Value → Path → Report Element) (path : Path) (start : Nat)
    (raws : List Value) (elements : List Element) : Prop :=
  elements.length = raws.length ∧
    ∀ index raw, raws[index]? = some raw → ∃ element,
      elements[index]? = some element ∧
        (renderOne raw (path ++ [((start + index : Nat) : Int)])).outcome = .ok element

variable {renderOne : Value → Path → Report Element} {path : Path} {start : Nat}
variable {raw : Value} {raws : List Value} {element : Element} {elements : List Element}

/-- Every element is the rendering of the component at its index. -/
theorem Drawn.exists_of_getElem? {index : Nat}
    (drawn : Drawn renderOne path start raws elements)
    (atIndex : elements[index]? = some element) :
    ∃ raw, raws[index]? = some raw ∧
      (renderOne raw (path ++ [((start + index : Nat) : Int)])).outcome = .ok element := by
  have inBounds : index < raws.length := by
    rw [← drawn.1]
    exact (List.getElem?_eq_some_iff.1 atIndex).1
  have rawAt : raws[index]? = some raws[index] := List.getElem?_eq_getElem inBounds
  obtain ⟨other, otherAt, yielded⟩ := drawn.2 index raws[index] rawAt
  obtain rfl : element = other := Option.some.inj (atIndex.symm.trans otherAt)
  exact ⟨_, rawAt, yielded⟩

@[simp] theorem drawn_nil_iff :
    Drawn renderOne path start [] elements ↔ elements = [] := by
  simp [Drawn]

theorem drawn_cons_iff :
    Drawn renderOne path start (raw :: raws) elements ↔
      ∃ first rest, elements = first :: rest ∧
        (renderOne raw (path ++ [(start : Int)])).outcome = .ok first ∧
          Drawn renderOne path (start + 1) raws rest := by
  constructor
  · rintro ⟨sameLength, drawn⟩
    obtain ⟨first, atZero, firstDrawn⟩ := drawn 0 raw rfl
    cases elements with
    | nil => simp at atZero
    | cons head rest =>
        obtain rfl : head = first := by simpa using atZero
        refine ⟨head, rest, rfl, firstDrawn, by simpa using sameLength, ?_⟩
        intro index next found
        obtain ⟨element, atIndex, elementDrawn⟩ := drawn (index + 1) next (by simpa using found)
        refine ⟨element, by simpa using atIndex, ?_⟩
        rwa [Nat.add_right_comm, Nat.add_assoc]
  · rintro ⟨first, rest, rfl, firstDrawn, sameLength, drawn⟩
    refine ⟨by simp [sameLength], ?_⟩
    intro index next found
    cases index with
    | zero =>
        obtain rfl : raw = next := by simpa using found
        exact ⟨first, rfl, firstDrawn⟩
    | succ index =>
        obtain ⟨element, atIndex, elementDrawn⟩ := drawn index next (by simpa using found)
        refine ⟨element, by simpa using atIndex, ?_⟩
        rwa [Nat.add_right_comm, Nat.add_assoc] at elementDrawn

/-- Rendering a list yields the renderings of its components and nothing else. -/
theorem renderEach_eq_ok_iff :
    (renderEach renderOne path start raws).outcome = .ok elements ↔
      Drawn renderOne path start raws elements := by
  induction raws generalizing start elements with
  | nil => simp [renderEach, eq_comm]
  | cons raw raws ih =>
      rw [renderEach, Report.outcome_andThen_eq_ok_iff, drawn_cons_iff]
      simp only [Report.outcome_map_eq_ok_iff, ih]
      constructor
      · rintro ⟨first, firstDrawn, rest, drawn, rfl⟩
        exact ⟨first, rest, rfl, firstDrawn, drawn⟩
      · rintro ⟨first, rest, rfl, firstDrawn, drawn⟩
        exact ⟨first, firstDrawn, rest, drawn, rfl⟩

/-- Rendering a list fails as the first of its components that fails. -/
theorem failure?_renderEach {faultOf : Value → Option RenderFault}
    (each : ∀ raw path, (renderOne raw path).failure? = faultOf raw) :
    (renderEach renderOne path start raws).failure? = raws.findSome? faultOf := by
  induction raws generalizing start with
  | nil => rfl
  | cons raw raws ih =>
      rw [renderEach, List.findSome?_cons, ← each raw (path ++ [(start : Int)])]
      generalize renderOne raw (path ++ [(start : Int)]) = report
      cases yielded : report.outcome with
      | error reason => simp [Report.failure?, Report.andThen, yielded]
      | ok first =>
          rw [Report.failure?_andThen_of_ok _ yielded, Report.failure?_map, ih,
            Report.failure?_eq_none_iff.2 ⟨first, yielded⟩]

end Renderer

end PageTree
