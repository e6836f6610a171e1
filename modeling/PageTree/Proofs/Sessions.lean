import Mathlib.Logic.Relation
import PageTree.Proofs.Usage
import PageTree.Session

/-!
# Sessions as courses of uses

A session keeps the page that was rendered last and finds the element to press by its key.
So each of its steps is a use of its renderer, or none when no element has the key, and
what is known of courses of uses is known of sessions (`Session.exists_mirrors_run`).
-/

namespace PageTree

namespace Answer

variable {answers : List Answer} {answer : Answer} {tree element : Element}

theorem mem_trees_append (member : tree ∈ trees answers) : tree ∈ trees (answers ++ [answer]) := by
  rw [trees, List.filterMap_append]
  exact List.mem_append_left _ member

/-- Every element of a tree in use can be pressed. -/
theorem exists_element? (member : tree ∈ trees answers) (inside : element ∈ tree.walk) :
    ∃ number position, element? answers number position = some element := by
  obtain ⟨number, treeAt⟩ := List.mem_iff_getElem?.1 member
  obtain ⟨position, elementAt⟩ := List.mem_iff_getElem?.1 inside
  exact ⟨number, position, by rw [element?, treeAt, Option.bind_some, elementAt]⟩

end Answer

namespace Session

/-- The session stands where a course of uses stands. -/
structure Mirrors (session : Session) (usage : Usage) : Prop where
  renderer : session.renderer? = .ok usage.renderer
  page : ∀ tree, session.page = some tree → tree ∈ Answer.trees usage.answers
  calls : session.calls = usage.calls

/-- A step of a session, whatever the answer to it. -/
inductive Step : Session → Session → Prop where
  | render (session : Session) (page : Value) : Step session (session.renderTree page).1
  | register (session : Session) (tag : String) (presentation : Presentation)
      (replace : Bool) : Step session (session.register tag presentation replace).1
  | press (session : Session) (key : String) : Step session (session.press key).1

variable {session next : Session} {usage : Usage}

/-- What makes a renderer of a session: everything but its catalogue stays as it is. -/
theorem renderer?_eq_ok_iff {renderer : Renderer} :
    session.renderer? = .ok renderer ↔
      session.theme = .ok renderer.theme ∧ session.host = .ok renderer.host ∧
        session.catalogue = renderer.catalogue ∧
          session.settings.maxDepth = renderer.maxDepth := by
  unfold renderer? theme? host?
  obtain ⟨theme, catalogue, host, maxDepth, maxDepth_pos⟩ := renderer
  cases session.theme with
  | error reason => simp [Except.mapError]
  | ok sessionTheme =>
      cases session.host with
      | error reason => simp [Except.mapError]
      | ok sessionHost => simp [Except.mapError, and_left_comm]

/-- The tree of a page is what the session's renderer makes of it. -/
theorem tree?_eq_ok_iff {renderer : Renderer} {page : Value} {tree : Element}
    (found : session.renderer? = .ok renderer) :
    session.tree? page = .ok tree ↔ renderer.Renders page tree := by
  simp only [tree?, found, Renderer.Renders]
  cases renderer.renderPage page with
  | error reason => simp
  | ok report => cases outcome : report.outcome <;> simp [outcome, Except.mapError]

namespace Mirrors

/-- The page shown remains in use. -/
theorem mem_trees_step (mirrors : session.Mirrors usage) {tree : Element} (use : Use)
    (shown : session.page = some tree) : tree ∈ Answer.trees (usage.step use).answers :=
  Answer.mem_trees_append (mirrors.page tree shown)

/-- Rendering a page is the same use of the renderer. -/
theorem renderTree (mirrors : session.Mirrors usage) (page : Value) :
    (session.renderTree page).1.Mirrors (usage.step (.render page)) := by
  have sameCalls : session.calls = (usage.step (.render page)).calls :=
    mirrors.calls.trans (List.append_nil _).symm
  unfold Session.renderTree
  cases found : session.tree? page with
  | error reason =>
      exact ⟨mirrors.renderer, fun _ => mirrors.mem_trees_step _, sameCalls⟩
  | ok tree =>
      refine ⟨mirrors.renderer, ?_, sameCalls⟩
      rintro shown ⟨rfl⟩
      obtain ⟨report, rendered, yielded⟩ := (tree?_eq_ok_iff mirrors.renderer).1 found
      refine List.mem_filterMap.2 ⟨.rendered (.ok report), ?_, ?_⟩
      · rw [← rendered]
        exact List.mem_append_right _ (List.mem_singleton_self _)
      · rw [Answer.tree?, yielded]
        rfl

/-- A registration is the same use of the renderer, whether it succeeds or fails. -/
theorem register (mirrors : session.Mirrors usage) (tag : String) (presentation : Presentation)
    (replace : Bool) :
    (session.register tag presentation replace).1.Mirrors
      (usage.step (.register tag presentation replace)) := by
  obtain ⟨theme, host, catalogue, depth⟩ := renderer?_eq_ok_iff.1 mirrors.renderer
  have sameCalls : session.calls = (usage.step (.register tag presentation replace)).calls :=
    mirrors.calls.trans (List.append_nil _).symm
  unfold Session.register
  rw [catalogue]
  cases registered : usage.renderer.catalogue.register tag presentation replace with
  | error reason =>
      refine ⟨renderer?_eq_ok_iff.2 ⟨theme, host, ?_, depth⟩,
        fun _ => mirrors.mem_trees_step _, sameCalls⟩
      rw [catalogue, Usage.step, Catalogue.after, Catalogue.afterRegister, registered]
  | ok grown =>
      refine ⟨renderer?_eq_ok_iff.2 ⟨theme, host, ?_, depth⟩,
        fun _ => mirrors.mem_trees_step _, sameCalls⟩
      rw [Usage.step, Catalogue.after, Catalogue.afterRegister, registered]

/-- A press is a press of an element in use, unless no element of the page has the key. -/
theorem press (mirrors : session.Mirrors usage) (key : String) :
    (session.press key).1.Mirrors usage ∨
      ∃ number position, (session.press key).1.Mirrors (usage.step (.press number position)) := by
  unfold Session.press
  cases found : session.find? key with
  | none => exact .inl mirrors
  | some element =>
      right
      obtain ⟨tree, shown, atKey⟩ := Option.bind_eq_some_iff.1 found
      obtain ⟨number, position, inUse⟩ :=
        Answer.exists_element? (mirrors.page tree shown) (List.mem_of_find?_eq_some atKey)
      refine ⟨number, position, ?_⟩
      have callsMade : (usage.answer (.press number position)).callsMade =
          element.press.elim [] Outcome.calls := by
        rw [Usage.answer, inUse]
        rfl
      dsimp only
      cases pressed : element.press with
      | none =>
          refine ⟨mirrors.renderer, fun _ => mirrors.mem_trees_step _, ?_⟩
          rw [Usage.step, callsMade, pressed, Option.elim_none, List.append_nil]
          exact mirrors.calls
      | some outcome =>
          refine ⟨mirrors.renderer, fun _ => mirrors.mem_trees_step _, ?_⟩
          rw [Usage.step, callsMade, pressed, Option.elim_some, ← mirrors.calls]
          rfl

/-- Each step of a session is at most one use of its renderer. -/
theorem step (mirrors : session.Mirrors usage) (stepped : session.Step next) :
    ∃ uses, next.Mirrors (usage.run uses) := by
  cases stepped with
  | render page => exact ⟨[.render page], mirrors.renderTree page⟩
  | register tag presentation replace =>
      exact ⟨[.register tag presentation replace], mirrors.register tag presentation replace⟩
  | press key =>
      rcases mirrors.press key with unchanged | ⟨number, position, pressed⟩
      · exact ⟨[], unchanged⟩
      · exact ⟨[.press number position], pressed⟩

end Mirrors

/-- A session whose theme and host are in order is a course of uses of its renderer. -/
theorem exists_mirrors_run {start : Session} {renderer : Renderer}
    (found : start.renderer? = .ok renderer) (unused : start.page = none ∧ start.calls = [])
    (reached : Relation.ReflTransGen Step start session) :
    ∃ uses, session.Mirrors (Usage.run { renderer } uses) := by
  induction reached with
  | refl =>
      refine ⟨[], found, ?_, unused.2⟩
      rw [unused.1]
      exact nofun
  | tail _ stepped ih =>
      obtain ⟨before, mirrors⟩ := ih
      obtain ⟨after, mirrored⟩ := mirrors.step stepped
      refine ⟨before ++ after, ?_⟩
      rw [Usage.run_append]
      exact mirrored

end Session

end PageTree
