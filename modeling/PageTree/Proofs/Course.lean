import PageTree.Proofs.Walk

/-!
# Courses

What a report counts and what it tells, apart from its outcome.  Reports that are
put together one after the other add up their counts and append their events
(`Report.followedBy`), and a list of components that is rendered without a fault
is such a chain, one link for each component (`renderEach_cons_of_ok`).
-/

namespace PageTree

namespace Report

variable {α β : Type} {value : α}

/-- The course of one report and then that of another, with the outcome of the
latter. -/
def followedBy (report : Report α) (following : Report β) : Report β :=
  ⟨report.visited + following.visited,
    fun defect => report.placeholders defect + following.placeholders defect,
    report.events ++ following.events, following.outcome⟩

/-- A report that yields a value goes on with what follows from it. -/
theorem andThen_of_ok {report : Report α} (next : α → Report β)
    (yielded : report.outcome = .ok value) :
    report.andThen next = report.followedBy (next value) := by
  simp [andThen, followedBy, yielded]

@[simp] theorem placeholders_result (value : α) (defect : Defect) :
    (result value).placeholders defect = 0 := rfl

@[simp] theorem visited_counted (report : Report α) :
    report.counted.visited = report.visited + 1 := rfl

@[simp] theorem placeholders_counted (report : Report α) :
    report.counted.placeholders = report.placeholders := rfl

@[simp] theorem visited_reporting (event : Event) (report : Report α) :
    (report.reporting event).visited = report.visited := rfl

@[simp] theorem placeholders_reporting (event : Event) (report : Report α) :
    (report.reporting event).placeholders = report.placeholders := rfl

@[simp] theorem visited_followedBy (report : Report α) (following : Report β) :
    (report.followedBy following).visited = report.visited + following.visited := rfl

@[simp] theorem placeholders_followedBy (report : Report α) (following : Report β)
    (defect : Defect) :
    (report.followedBy following).placeholders defect =
      report.placeholders defect + following.placeholders defect := rfl

@[simp] theorem degraded_followedBy (report : Report α) (following : Report β) :
    (report.followedBy following).degraded = report.degraded ++ following.degraded := by
  simp [degraded, followedBy]

@[simp] theorem degraded_counted (report : Report α) :
    report.counted.degraded = report.degraded := rfl

end Report

namespace Renderer

section Flagged

variable {α : Type} (defect : Defect) (key : String) (detail : DefectDetail) (value : α)

@[simp] theorem visited_flagged : (flagged defect key detail value).visited = 0 := rfl

@[simp] theorem placeholders_flagged (other : Defect) :
    (flagged defect key detail value).placeholders other =
      if other = defect then 1 else 0 := by
  simp [flagged, Report.flagging]

@[simp] theorem degraded_flagged :
    (flagged defect key detail value).degraded = [(defect, key)] := rfl

end Flagged

variable {renderOne : Value → Path → Report Element} {path : Path} {start : Nat}
variable {raw : Value} {raws : List Value} {first : Element} {elements : List Element}

/-- Rendering a list goes the course of its first component and then that of the
others. -/
theorem renderEach_cons_of_ok
    (yielded : (renderOne raw (path ++ [(start : Int)])).outcome = .ok first) :
    renderEach renderOne path start (raw :: raws) =
      (renderOne raw (path ++ [(start : Int)])).followedBy
        ((renderEach renderOne path (start + 1) raws).map fun rest => first :: rest) := by
  rw [renderEach, Report.andThen_of_ok _ yielded]

/-- A list that is rendered to the end renders its first component and the rest. -/
theorem renderEach_cons_eq_ok
    (yielded : (renderEach renderOne path start (raw :: raws)).outcome = .ok elements) :
    ∃ first rest, elements = first :: rest ∧
      (renderOne raw (path ++ [(start : Int)])).outcome = .ok first ∧
        (renderEach renderOne path (start + 1) raws).outcome = .ok rest := by
  rw [renderEach_eq_ok_iff, drawn_cons_iff] at yielded
  obtain ⟨first, rest, rfl, firstYielded, drawn⟩ := yielded
  exact ⟨first, rest, rfl, firstYielded, renderEach_eq_ok_iff.2 drawn⟩

/-! ## Pages -/

variable {σ : Type} [Strategy σ] [Presents σ] {renderer : Renderer} {page : Value}

/-- A page that lists components is the rendering of these. -/
theorem renderPage_of_listed (renderer : Renderer σ) (listed : page.components ≠ []) :
    renderer.renderPage page = .ok (renderer.renderComponents page.components) := by
  cases page with
  | array items => rfl
  | object fields =>
      simp only [Value.components] at listed ⊢
      simp only [renderPage, Descriptor.ofValue?, Except.map, renderDescriptor]
      cases found : Table.get? fields "components" with
      | none => simp [found, Value.itemsOrEmpty] at listed
      | some value =>
          cases value with
          | array items => rfl
          | _ => simp [found, Value.itemsOrEmpty] at listed
  | _ => exact absurd rfl listed

/-- Every renderer treats a page without components in the same way.  It may describe
nothing; otherwise it is one of two notices, and components that are not a list are
reported in front. -/
theorem renderPage_of_unlisted (unlisted : page.components = []) :
    page.isScalar = true ∨
      (∀ {σ : Type} [Strategy σ] [Presents σ] (renderer : Renderer σ),
        renderer.renderPage page = .ok renderer.renderMissing) ∨
      (∀ {σ : Type} [Strategy σ] [Presents σ] (renderer : Renderer σ),
        renderer.renderPage page = .ok renderer.renderEmpty) ∨
      ∃ kind, ∀ {σ : Type} [Strategy σ] [Presents σ] (renderer : Renderer σ),
        renderer.renderPage page =
          .ok (renderer.renderEmpty.reporting (.invalidComponents kind)) := by
  cases page with
  | null =>
      right
      left
      intro _ _ _ renderer
      rfl
  | array items =>
      right
      right
      left
      intro _ _ _ renderer
      simp only [Value.components] at unlisted
      subst items
      rfl
  | object fields =>
      right
      right
      simp only [Value.components] at unlisted
      simp only [renderPage, Descriptor.ofValue?, Except.map, renderDescriptor]
      cases listing : Table.get? fields "components" with
      | none =>
          left
          intro _ _ _ renderer
          rfl
      | some value =>
          rw [listing] at unlisted
          cases value with
          | null =>
              left
              intro _ _ _ renderer
              rfl
          | array items =>
              left
              intro _ _ _ renderer
              simp only [Option.getD_some, Value.itemsOrEmpty] at unlisted
              subst items
              rfl
          | _ =>
              right
              exact ⟨_, fun _ => rfl⟩
  | _ =>
      left
      rfl

/-- Components that are rendered to the end are the children of a page, which is
reported as complete behind everything else. -/
theorem renderComponents_of_ok {components : List Value} {tree : Element}
    (listed : components ≠ [])
    (yielded : (renderer.renderComponents components).outcome = .ok tree) :
    ∃ children, (renderer.renderChildren components []).outcome = .ok children ∧
      tree = renderer.pageElement children ∧
      renderer.renderComponents components =
        (renderer.renderChildren components []).followedBy
          ((Report.result tree).reporting (.renderComplete
            (renderer.renderChildren components []).visited
            (renderer.renderChildren components []).placeholderCount)) := by
  cases components with
  | nil => exact absurd rfl listed
  | cons first rest =>
      simp only [renderComponents, outcome_concluding, Report.outcome_map_eq_ok_iff] at yielded
      obtain ⟨children, rendered, rfl⟩ := yielded
      refine ⟨children, rendered, rfl, ?_⟩
      have mapped : ((renderer.renderChildren (first :: rest) []).map
          renderer.pageElement).outcome = .ok (renderer.pageElement children) := by
        rw [Report.outcome_map_eq_ok_iff]
        exact ⟨children, rendered, rfl⟩
      simp only [renderComponents, concluding]
      rw [Report.andThen_of_ok _ mapped]
      rfl

end Renderer

end PageTree
