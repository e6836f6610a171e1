import PageTree.Event

/-!
# Reports

A rendering yields a report: what it produced or why it stopped, the number of
components it visited, the number of placeholders for each defect, and the events
in their order.  Reports are put together one after the other; after a fault
nothing more is added.
-/

namespace PageTree

/-- Why a rendering stops. -/
inductive RenderFault where
  /-- Text stands where a container of components is to be presented. -/
  | childlessContainer
  /-- An integer that is to be shown as text has too many digits. -/
  | overlongInteger
  deriving DecidableEq, Repr

/-- The course of a rendering. -/
structure Report (α : Type) where
  visited : Nat
  /-- How many placeholders were made for each defect. -/
  placeholders : Defect → Nat
  events : List Event
  outcome : Except RenderFault α

namespace Report

variable {α β : Type}

/-- A result without further ado. -/
def result (value : α) : Report α := ⟨0, fun _ => 0, [], .ok value⟩

/-- A fault without further ado. -/
def fault (reason : RenderFault) : Report α := ⟨0, fun _ => 0, [], .error reason⟩

/-- Go on with the result, if there is one. -/
def andThen (report : Report α) (next : α → Report β) : Report β :=
  match report.outcome with
  | .ok value =>
      let following := next value
      ⟨report.visited + following.visited,
        fun defect => report.placeholders defect + following.placeholders defect,
        report.events ++ following.events, following.outcome⟩
  | .error reason =>
      ⟨report.visited, report.placeholders, report.events, .error reason⟩

/-- Go on with what has been read to be shown, or stop at too many digits. -/
def reading (read : Except Numeral.DigitLimitError α) (next : α → Report β) :
    Report β :=
  match read with
  | .ok value => next value
  | .error _ => fault .overlongInteger

/-- Change the result, if there is one. -/
def map (image : α → β) (report : Report α) : Report β :=
  { report with outcome := report.outcome.map image }

/-- Count one more component. -/
def counted (report : Report α) : Report α :=
  { report with visited := report.visited + 1 }

/-- Count one more placeholder for a defect. -/
def flagging (defect : Defect) (report : Report α) : Report α :=
  { report with
    placeholders := fun other =>
      report.placeholders other + if other = defect then 1 else 0 }

/-- Report an event in front of the others. -/
def reporting (event : Event) (report : Report α) : Report α :=
  { report with events := event :: report.events }

/-- The placeholders that were reported, each with its key. -/
def degraded (report : Report α) : List (Defect × String) :=
  report.events.filterMap Event.degraded?

/-- The number of placeholders for all defects together. -/
def placeholderCount (report : Report α) : Nat :=
  Defect.all.foldr (fun defect count => report.placeholders defect + count) 0

@[simp] theorem andThen_result (value : α) (next : α → Report β) :
    (result value).andThen next = next value := by
  simp [andThen, result]

@[simp] theorem andThen_fault (reason : RenderFault) (next : α → Report β) :
    (fault reason).andThen next = fault reason := rfl

@[simp] theorem reading_ok (value : α) (next : α → Report β) :
    reading (.ok value) next = next value := rfl

@[simp] theorem reading_error (reason : Numeral.DigitLimitError) (next : α → Report β) :
    reading (.error reason) next = fault .overlongInteger := rfl

@[simp] theorem visited_map (image : α → β) (report : Report α) :
    (report.map image).visited = report.visited := rfl

@[simp] theorem events_map (image : α → β) (report : Report α) :
    (report.map image).events = report.events := rfl

end Report

end PageTree
