import Mathlib.Data.List.Basic
import PageTree.Proofs.Transcripts
import PageTree.Proofs.Triggers

/-!
# A renderer in use

A renderer is used over time: component types are registered, pages are rendered, and
elements of the rendered trees are pressed, in any order.  A tree stays in use when the
catalogue changes later, and a step that fails leaves everything as it was.

Only presses reach the host.  The calls made in a whole course of uses are those that the
data of the pressed elements asks for, one after the other, and every rendering is that of
a fresh renderer with the registrations made so far
(`Usage.host_called_only_by_presses`).  The proof has one invariant, that all trees in use are
bound to the host; each step keeps it, since every tree that is added is a rendered one.
-/

namespace PageTree

/-- One use of a renderer. -/
inductive Use where
  | register (tag : String) (presentation : Presentation) (replace : Bool)
  | render (page : Value)
  /-- Press an element of an earlier tree.  Trees are numbered as they were rendered and
  elements in the order of the walk. -/
  | press (tree position : Nat)

/-- What a use comes to. -/
inductive Answer where
  | registered (result : Except AlreadyRegistered Unit)
  | rendered (result : Except DescriptorError (Report Element))
  /-- An element was pressed; the failing call, if there is one, is the presser's. -/
  | pressed (element : Element) (failure? : Option Call)
  /-- There is no such element. -/
  | missing

namespace Answer

/-- The tree of a rendering that yielded one. -/
def tree? : Answer → Option Element
  | rendered (.ok report) => report.outcome.toOption
  | _ => none

/-- The calls that the host receives from the trigger of a pressed element. -/
def callsMade : Answer → List Call
  | pressed element _ => element.press.elim [] Outcome.calls
  | _ => []

/-- The calls that the data of a pressed element asks for: at most one. -/
def callsAsked (host : Host) : Answer → List Call
  | pressed element _ => ((host.asked? element.toValue).map Prod.fst).toList
  | _ => []

/-- The trees among the answers, as they were rendered. -/
def trees (answers : List Answer) : List Element :=
  answers.filterMap tree?

/-- An element of a tree among the answers. -/
def element? (answers : List Answer) (tree position : Nat) : Option Element :=
  (trees answers)[tree]?.bind fun element => element.walk[position]?

end Answer

namespace Catalogue

/-- The catalogue after a use.  Only a registration that succeeds changes it. -/
def after (catalogue : Catalogue) : Use → Catalogue
  | .register tag presentation replace => catalogue.afterRegister tag presentation replace
  | _ => catalogue

/-- The catalogue after several uses. -/
def afterAll (catalogue : Catalogue) (uses : List Use) : Catalogue :=
  uses.foldl after catalogue

end Catalogue

/-- A renderer with its answers and the calls of its host so far. -/
structure Usage where
  renderer : Renderer
  answers : List Answer := []
  calls : List Call := []

namespace Usage

/-- The answer to a use. -/
def answer (usage : Usage) : Use → Answer
  | .register tag presentation replace =>
      .registered ((usage.renderer.catalogue.register tag presentation replace).map fun _ => ())
  | .render page => .rendered (usage.renderer.renderPage page)
  | .press tree position =>
      match Answer.element? usage.answers tree position with
      | some element => .pressed element (element.press.bind Outcome.failure?)
      | none => .missing

/-- Use the renderer once. -/
def step (usage : Usage) (use : Use) : Usage where
  renderer := { usage.renderer with catalogue := usage.renderer.catalogue.after use }
  answers := usage.answers ++ [usage.answer use]
  calls := usage.calls ++ (usage.answer use).callsMade

/-- Use the renderer several times. -/
def run (usage : Usage) (uses : List Use) : Usage :=
  uses.foldl step usage

/-! ## Answers and catalogues along a run -/

variable {usage : Usage} {renderer : Renderer} {uses : List Use} {use : Use} {index : Nat}

theorem run_append (before after : List Use) :
    usage.run (before ++ after) = (usage.run before).run after :=
  List.foldl_append

theorem run_concat : usage.run (uses ++ [use]) = (usage.run uses).step use :=
  List.foldl_concat _ _ _ _

/-- A run changes nothing of the renderer but its catalogue. -/
theorem renderer_run :
    (usage.run uses).renderer =
      { usage.renderer with catalogue := usage.renderer.catalogue.afterAll uses } := by
  induction uses using List.reverseRecOn with
  | nil => rfl
  | append_singleton uses use ih =>
      rw [run_concat, step, ih, Catalogue.afterAll, Catalogue.afterAll, List.foldl_concat]

theorem grows : Transcript.Grows step answers answer :=
  fun _ _ => rfl

/-- Every use is answered. -/
theorem length_answers_run :
    (usage.run uses).answers.length = usage.answers.length + uses.length :=
  grows.length usage uses

/-- The answers so far are those of the uses so far. -/
theorem take_answers_run (unused : usage.answers = []) (within : index ≤ uses.length) :
    (usage.run uses).answers.take index = (usage.run (uses.take index)).answers :=
  grows.take unused within

/-- Each use is answered as it is after the uses before it. -/
theorem getElem?_answers_run (unused : usage.answers = []) (atIndex : uses[index]? = some use) :
    (usage.run uses).answers[index]? = some ((usage.run (uses.take index)).answer use) :=
  grows.getElem? unused atIndex

/-! ## Calls -/

/-- The calls of a run are those made at its answers. -/
theorem calls_run (fresh : usage.calls = usage.answers.flatMap Answer.callsMade) :
    (usage.run uses).calls = (usage.run uses).answers.flatMap Answer.callsMade := by
  induction uses using List.reverseRecOn with
  | nil => exact fresh
  | append_singleton uses use ih =>
      rw [run_concat, step, ih, List.flatMap_append, List.flatMap_singleton]

end Usage

namespace Answer

/-- The trees and the pressed elements among the answers are bound to the host. -/
def IsBound (host : Host) : Answer → Prop
  | rendered (.ok report) =>
      ∀ tree, report.outcome = .ok tree → tree.Throughout (Element.BoundTo host)
  | pressed element _ => element.BoundTo host
  | _ => True

variable {host : Host} {answers : List Answer} {answer : Answer} {element : Element}

theorem IsBound.throughout {tree : Element} (bound : answer.IsBound host)
    (yielded : answer.tree? = some tree) : tree.Throughout (Element.BoundTo host) := by
  match answer, bound, yielded with
  | .rendered (.ok ⟨_, _, _, .ok _⟩), bound, rfl => exact bound _ rfl

theorem boundTo_of_element? {tree position : Nat}
    (bound : ∀ answer ∈ answers, answer.IsBound host)
    (found : element? answers tree position = some element) : element.BoundTo host := by
  obtain ⟨top, topAt, elementAt⟩ := Option.bind_eq_some_iff.1 found
  obtain ⟨answer, member, yielded⟩ := List.mem_filterMap.1 (List.mem_of_getElem? topAt)
  exact (bound answer member).throughout yielded element (List.mem_of_getElem? elementAt)

/-- The calls made at an answer are those that the data asks for. -/
theorem IsBound.callsMade_eq (bound : answer.IsBound host) :
    answer.callsMade = answer.callsAsked host := by
  cases answer with
  | pressed element failure? => exact Element.BoundTo.calls_press bound
  | _ => rfl

end Answer

namespace Usage

variable {usage : Usage} {renderer : Renderer} {uses : List Use} {use : Use} {host : Host}

/-- What a use adds is bound to the host, if what is there is. -/
theorem isBound_answer (bound : ∀ answer ∈ usage.answers, answer.IsBound usage.renderer.host) :
    (usage.answer use).IsBound usage.renderer.host := by
  cases use with
  | register tag presentation replace => trivial
  | render page =>
      rw [answer]
      cases found : usage.renderer.renderPage page with
      | error reason => trivial
      | ok report =>
          intro tree yielded
          exact Renderer.Renders.boundTo ⟨report, found, yielded⟩
  | press tree position =>
      rw [answer]
      cases found : Answer.element? usage.answers tree position with
      | none => trivial
      | some element => exact Answer.boundTo_of_element? bound found

/-- All that is in use stays bound to the host. -/
theorem isBound_run (bound : ∀ answer ∈ usage.answers, answer.IsBound usage.renderer.host) :
    ∀ answer ∈ (usage.run uses).answers, answer.IsBound usage.renderer.host := by
  induction uses using List.reverseRecOn with
  | nil => exact bound
  | append_singleton uses use ih =>
      have sameHost : (usage.run uses).renderer.host = usage.renderer.host := by
        rw [renderer_run]
      rw [run_concat, step, List.forall_mem_append, List.forall_mem_singleton]
      refine ⟨ih, ?_⟩
      rw [← sameHost] at ih ⊢
      exact isBound_answer ih

/-- In a whole course of uses the host is called only by presses, and by each of them as
the data of the pressed element asks, whatever was registered since the tree was rendered.
A failing call is made once and its failure is the answer to the press.  Registrations and
renderings are answered as by a fresh renderer with the registrations made before. -/
theorem host_called_only_by_presses (renderer : Renderer) (uses : List Use) :
    let usage := run { renderer } uses
    usage.calls = usage.answers.flatMap (Answer.callsAsked renderer.host) ∧
      usage.answers.length = uses.length ∧
      ∀ index,
        let present : Renderer :=
          { renderer with catalogue := renderer.catalogue.afterAll (uses.take index) }
        (∀ tag presentation replace,
          uses[index]? = some (.register tag presentation replace) →
          usage.answers[index]? = some (.registered
            ((present.catalogue.register tag presentation replace).map fun _ => ()))) ∧
        (∀ page, uses[index]? = some (.render page) →
          usage.answers[index]? = some (.rendered (present.renderPage page))) ∧
        ∀ tree position, uses[index]? = some (.press tree position) →
          usage.answers[index]? = some
            ((Answer.element? (usage.answers.take index) tree position).elim .missing
              fun element => .pressed element
                (((renderer.host.asked? element.toValue).filter Prod.snd).map Prod.fst)) := by
  intro usage
  have unused : ∀ answer ∈ ({ renderer : Usage }).answers, answer.IsBound renderer.host :=
    List.forall_mem_nil _
  have bound : ∀ answer ∈ usage.answers, answer.IsBound renderer.host := isBound_run unused
  refine ⟨?_, ?_, ?_⟩
  · rw [calls_run rfl]
    exact List.flatMap_congr fun answer member => (bound answer member).callsMade_eq
  · exact length_answers_run.trans (Nat.zero_add _)
  · intro index present
    have current : (run { renderer } (uses.take index)).renderer = present := renderer_run
    refine ⟨?_, ?_, ?_⟩
    · intro tag presentation replace atIndex
      rw [getElem?_answers_run rfl atIndex, answer, current]
    · intro page atIndex
      rw [getElem?_answers_run rfl atIndex, answer, current]
    · intro tree position atIndex
      have within := (List.getElem?_eq_some_iff.1 atIndex).1
      rw [getElem?_answers_run rfl atIndex, answer, ← take_answers_run rfl (Nat.le_of_lt within)]
      cases found : Answer.element? (usage.answers.take index) tree position with
      | none => rfl
      | some element =>
          have elementBound := Answer.boundTo_of_element?
            (fun answer member => bound answer (List.mem_of_mem_take member)) found
          rw [Option.elim_some, ← elementBound.failure?_press]

/-- A failing call is made at each press of its button and at none of the other steps,
also after the catalogue has grown; what is not served or not given is not called. -/
theorem failing_call_pressed_twice :
    let host : Host := ⟨[("navigate", some ⟨"go", true⟩), ("show", some ⟨"open", false⟩),
      ("off", none)]⟩
    let renderer := Renderer.standard host
    let button (kind target : String) : Value :=
      .object [("type", .string "button"), ("action", .string kind), ("target", .string target)]
    let page : Value := .array [button "navigate" "home", .object [("type", .string "container"),
      ("children", .array [button "show" "x", button "off" "y", button "show" ""])]]
    let card : Value := .array [.object [("type", .string "card"), ("target", .string "z")]]
    let uses : List Use := [.render page, .register "text" .button false,
      .register "card" .button false, .press 0 1, .press 0 4, .press 0 6, .press 0 8,
      .press 0 0, .press 1 0, .press 0 1, .render (.int 3), .render card]
    let usage := run { renderer } uses
    let grown : Renderer := { renderer with catalogue := renderer.catalogue.afterAll uses }
    usage.calls = [⟨"go", "home"⟩, ⟨"open", "x"⟩, ⟨"go", "home"⟩] ∧
      usage.answers.flatMap (Answer.callsAsked host) = usage.calls ∧
      usage.answers[1]? = some (.registered (.error ⟨"text"⟩)) ∧
      (∃ element, usage.answers[3]? = some (.pressed element (some ⟨"go", "home"⟩))) ∧
      usage.answers[8]? = some .missing ∧
      usage.answers[11]? = some (.rendered (grown.renderPage card)) := by
  intro host renderer button page card uses usage grown
  obtain ⟨calls, -, each⟩ := host_called_only_by_presses renderer uses
  have asked : (Answer.element? (usage.answers.take 3) 0 1).map
      (fun element => renderer.host.asked? element.toValue) =
        some (some (⟨"go", "home"⟩, true)) := by
    decide +kernel
  have absent : (Answer.element? (usage.answers.take 8) 1 0).isNone := by decide +kernel
  obtain ⟨element, found, data⟩ := Option.map_eq_some_iff.1 asked
  refine ⟨by decide +kernel, calls.symm, ?_, ⟨element, ?_⟩, ?_, (each 11).2.1 card rfl⟩
  · exact (each 1).1 "text" .button false rfl
  · rw [(each 3).2.2 0 1 rfl, found, Option.elim_some, data]
    rfl
  · rw [(each 8).2.2 1 0 rfl, Option.isNone_iff_eq_none.1 absent]
    rfl

end Usage

end PageTree
