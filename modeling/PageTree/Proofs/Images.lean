import PageTree.Proofs.Outcome

/-!
# Images of reports

Changing the result of a report leaves its counts and events as they are, and it does not
matter whether a result is changed where it is made or later.  So the image of a rendered
list is rendered by the procedure that yields the images (`Renderer.map_renderEach`), and
two renderings are compared under an image by comparing their steps
(`Renderer.map_renderEach_congr`).
-/

namespace PageTree

namespace Report

variable {α β γ δ : Type} {report : Report α} {other : Report β}

theorem map_result (image : α → β) (value : α) :
    (result value).map image = result (image value) := rfl

theorem map_counted (image : α → β) (report : Report α) :
    report.counted.map image = (report.map image).counted := rfl

theorem map_reporting (image : α → β) (event : Event) (report : Report α) :
    (report.reporting event).map image = (report.map image).reporting event := rfl

theorem map_map (image : α → β) (next : β → γ) (report : Report α) :
    (report.map image).map next = report.map (next ∘ image) := by
  obtain ⟨visited, placeholders, events, outcome⟩ := report
  cases outcome <;> rfl

theorem map_andThen (image : β → γ) (report : Report α) (next : α → Report β) :
    (report.andThen next).map image = report.andThen fun value => (next value).map image := by
  obtain ⟨visited, placeholders, events, outcome⟩ := report
  cases outcome <;> rfl

theorem andThen_map (image : α → β) (report : Report α) (next : β → Report γ) :
    (report.map image).andThen next = report.andThen (next ∘ image) := by
  obtain ⟨visited, placeholders, events, outcome⟩ := report
  cases outcome <;> rfl

/-- What goes on with a field in two ways has the same image when it has for every text. -/
theorem map_reading_congr {read : Except Numeral.DigitLimitError α} {next : α → Report β}
    {otherNext : α → Report γ} {image : β → δ} {otherImage : γ → δ}
    (same : ∀ value, (next value).map image = (otherNext value).map otherImage) :
    (reading read next).map image = (reading read otherNext).map otherImage := by
  cases read with
  | error reason => rfl
  | ok value => exact same value

/-- Reports with the same image also have the same image under everything that the first
image decides. -/
theorem map_eq_map {image : α → γ} {otherImage : β → γ} {next : α → δ} {otherNext : β → δ}
    (same : report.map image = other.map otherImage)
    (decided : ∀ value otherValue, image value = otherImage otherValue →
      next value = otherNext otherValue) :
    report.map next = other.map otherNext := by
  obtain ⟨visited, placeholders, events, outcome⟩ := report
  obtain ⟨otherVisited, otherPlaceholders, otherEvents, otherOutcome⟩ := other
  cases outcome with
  | error reason =>
      cases otherOutcome with
      | error otherReason =>
          cases same
          rfl
      | ok otherValue => cases same
  | ok value =>
      cases otherOutcome with
      | error otherReason => cases same
      | ok otherValue =>
          simp only [map, Except.map, mk.injEq, Except.ok.injEq] at same ⊢
          exact ⟨same.1, same.2.1, same.2.2.1, decided _ _ same.2.2.2⟩

end Report

namespace Renderer

theorem map_flagged {α β : Type} (image : α → β) (defect : Defect) (key : String)
    (detail : DefectDetail) (value : α) :
    (flagged defect key detail value).map image = flagged defect key detail (image value) := rfl

theorem map_concluding {α β : Type} (image : α → β) (report : Report α) (event : Event) :
    (concluding report event).map image = concluding (report.map image) event := by
  rw [concluding, Report.map_andThen, concluding, Report.andThen_map]
  rfl

/-- The images of rendered components are the renderings of their images. -/
theorem map_renderEach (image : Element → Element) (renderOne : Value → Path → Report Element)
    (path : Path) (start : Nat) (raws : List Value) :
    (renderEach renderOne path start raws).map (List.map image) =
      renderEach (fun raw path => (renderOne raw path).map image) path start raws := by
  induction raws generalizing start with
  | nil => rfl
  | cons raw raws ih =>
      rw [renderEach, renderEach, Report.map_andThen, Report.andThen_map]
      congr 1
      funext element
      rw [Function.comp_apply, ← ih, Report.map_map, Report.map_map]
      rfl

/-- Procedures with the same images render lists with the same images. -/
theorem map_renderEach_congr {image : Element → Element}
    {renderOne renderOther : Value → Path → Report Element} {path : Path} {start : Nat}
    {raws : List Value}
    (same : ∀ raw path, (renderOne raw path).map image = (renderOther raw path).map image) :
    (renderEach renderOne path start raws).map (List.map image) =
      (renderEach renderOther path start raws).map (List.map image) := by
  rw [map_renderEach, map_renderEach]
  congr 1
  funext raw path
  exact same raw path

end Renderer

end PageTree
