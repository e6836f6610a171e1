import PageTree.Catalogue
import PageTree.Proofs.Tables
import PageTree.Proofs.Transcripts

/-!
# The history of a catalogue

A catalogue is changed by registrations alone, one after the other.  A registration is
refused when its type is present and may not be replaced, and then nothing happens; any
other one succeeds and is reported.

Everything that can be asked of the catalogue afterwards comes from the catalogue at the
start and the registrations that succeeded, in their order
(`Catalogue.registrations_in_order`).  The reason is that the table of presentations is
always the one of the start with the successful registrations written into it
(`History.follows_run`), so that the laws of tables apply.  It does not matter of which kind
the strategies are.
-/

namespace PageTree

variable {σ : Type}

/-- A call for the registration of a strategy. -/
structure Registration (σ : Type := Presentation) where
  tag : String
  strategy : σ
  replace : Bool
  deriving DecidableEq, Repr

namespace Registration

/-- The entry that a registration writes. -/
def entry (call : Registration σ) : String × σ :=
  (call.tag, call.strategy)

/-- The type is present, and it may not be replaced. -/
def IsRefused (call : Registration σ) (catalogue : Catalogue σ) : Prop :=
  catalogue.contains call.tag = true ∧ call.replace = false

instance (call : Registration σ) (catalogue : Catalogue σ) :
    Decidable (call.IsRefused catalogue) :=
  inferInstanceAs (Decidable (_ ∧ _))

end Registration

namespace Catalogue

variable {catalogue : Catalogue σ} {call : Registration σ}

theorem register_of_isRefused (refused : call.IsRefused catalogue) :
    catalogue.register call.tag call.strategy call.replace = .error ⟨call.tag⟩ := by
  obtain ⟨present, kept⟩ := refused
  simp [register, present, kept]

theorem register_of_not_isRefused (accepted : ¬call.IsRefused catalogue) :
    catalogue.register call.tag call.strategy call.replace =
      .ok ⟨Table.insert catalogue.presentations call.tag call.strategy,
        catalogue.fallback⟩ := by
  apply if_neg
  simpa [Registration.IsRefused] using accepted

/-- A catalogue with the registrations so far. -/
structure History (σ : Type := Presentation) where
  catalogue : Catalogue σ
  /-- The calls, each with the answer to it. -/
  answers : List (Registration σ × Except AlreadyRegistered Unit) := []
  events : List Event := []

namespace History

variable [Strategy σ]

/-- Answer one call. -/
def step (history : History σ) (call : Registration σ) : History σ :=
  match history.catalogue.register call.tag call.strategy call.replace with
  | .ok grown =>
      ⟨grown, history.answers ++ [(call, .ok ())],
        history.events ++ [registered call.tag call.strategy]⟩
  | .error reason =>
      ⟨history.catalogue, history.answers ++ [(call, .error reason)], history.events⟩

/-- Answer several calls. -/
def run (history : History σ) (calls : List (Registration σ)) : History σ :=
  calls.foldl step history

/-- The registrations that succeeded, in their order. -/
def successes (history : History σ) : List (Registration σ) :=
  history.answers.filterMap fun (call, answer) => answer.toOption.map fun () => call

variable {start : Catalogue σ} {history : History σ} {calls : List (Registration σ)}
variable {index : Nat}

/-! ## One call -/

/-- A refused call changes nothing and is not reported. -/
theorem step_of_isRefused (refused : call.IsRefused history.catalogue) :
    history.step call =
      ⟨history.catalogue, history.answers ++ [(call, .error ⟨call.tag⟩)], history.events⟩ := by
  simp only [step, register_of_isRefused refused]

/-- Any other call writes its entry and is reported. -/
theorem step_of_not_isRefused (accepted : ¬call.IsRefused history.catalogue) :
    history.step call =
      ⟨⟨Table.insert history.catalogue.presentations call.tag call.strategy,
          history.catalogue.fallback⟩,
        history.answers ++ [(call, .ok ())],
        history.events ++ [registered call.tag call.strategy]⟩ := by
  simp only [step, register_of_not_isRefused accepted]

/-- The answer to a call is put behind those before it. -/
theorem answers_step (history : History σ) (call : Registration σ) :
    (history.step call).answers = history.answers ++
      [(call, if call.IsRefused history.catalogue then .error ⟨call.tag⟩ else .ok ())] := by
  by_cases refused : call.IsRefused history.catalogue
  · rw [step_of_isRefused refused, if_pos refused]
  · rw [step_of_not_isRefused refused, if_neg refused]

theorem successes_step (history : History σ) (call : Registration σ) :
    (history.step call).successes = history.successes ++
      if call.IsRefused history.catalogue then [] else [call] := by
  rw [successes, answers_step, List.filterMap_append]
  split <;> rfl

/-- The catalogue is that of the start with the successful registrations written into it,
and these are what was reported. -/
structure Follows (start : Catalogue σ) (history : History σ) : Prop where
  catalogue : history.catalogue =
    ⟨Table.update start.presentations (history.successes.map Registration.entry), start.fallback⟩
  events : history.events =
    history.successes.map fun call => registered call.tag call.strategy

theorem Follows.step (follows : Follows start history) (call : Registration σ) :
    Follows start (history.step call) := by
  by_cases refused : call.IsRefused history.catalogue
  · have same : (history.step call).successes = history.successes := by
      rw [successes_step, if_pos refused, List.append_nil]
    constructor
    · rw [same, step_of_isRefused refused]
      exact follows.catalogue
    · rw [same, step_of_isRefused refused]
      exact follows.events
  · have grown : (history.step call).successes = history.successes ++ [call] := by
      rw [successes_step, if_neg refused]
    constructor
    · rw [grown, step_of_not_isRefused refused, List.map_append, Table.update_append,
        follows.catalogue]
      rfl
    · rw [grown, step_of_not_isRefused refused, List.map_append, follows.events]
      rfl

/-! ## Several calls -/

theorem run_append (before after : List (Registration σ)) :
    history.run (before ++ after) = (history.run before).run after :=
  List.foldl_append

theorem follows_run (start : Catalogue σ) (calls : List (Registration σ)) :
    Follows start (run { catalogue := start } calls) := by
  induction calls using List.reverseRecOn with
  | nil => exact ⟨rfl, rfl⟩
  | append_singleton calls call ih =>
      rw [run_append]
      exact ih.step call

/-- The history up to and with a call is one step longer than the one before it. -/
theorem run_take_succ (atIndex : calls[index]? = some call) :
    history.run (calls.take (index + 1)) = (history.run (calls.take index)).step call := by
  rw [List.take_add_one, atIndex, run_append]
  rfl

/-- A call is answered by the catalogue that it meets. -/
theorem getElem?_answers_run (atIndex : calls[index]? = some call) :
    (run { catalogue := start } calls).answers[index]? =
      some (call, if call.IsRefused (run { catalogue := start } (calls.take index)).catalogue
        then .error ⟨call.tag⟩ else .ok ()) :=
  have grows : Transcript.Grows step answers _ := answers_step
  grows.getElem? rfl atIndex

/-! ## What can be asked -/

/-- The registration that decides on a type is the last one that succeeded. -/
theorem Follows.get?_eq (follows : Follows start history) (tag : String) :
    history.catalogue.presentations.get? tag =
      (((history.successes.filter fun call => call.tag = tag).getLast?).map
        Registration.strategy).or (start.presentations.get? tag) := by
  have found : ∀ calls : List (Registration σ), Table.get? (calls.map Registration.entry) tag =
      (calls.find? fun call => call.tag = tag).map Registration.strategy := by
    intro calls
    induction calls with
    | nil => rfl
    | cons call rest ih =>
        by_cases asked : call.tag = tag
        · simp [Registration.entry, Table.get?, asked]
        · simpa [Registration.entry, Table.get?, asked] using ih
  rw [follows.catalogue, Table.get?_update_reverse, ← List.map_reverse, found,
    List.getLast?_filter]

/-- The types of the start come first, and the others in the order of their first
registration. -/
theorem Follows.tags_eq (follows : Follows start history)
    (distinct : start.presentations.Distinct) :
    history.catalogue.tags = start.tags ++
      ((history.successes.map Registration.tag).removeAll start.tags).eraseDups := by
  have written : Table.names (history.successes.map Registration.entry) =
      history.successes.map Registration.tag := List.map_map ..
  rw [tags, follows.catalogue, Table.names_update distinct, written, List.eraseDups_append,
    Table.eraseDups_names distinct]
  rfl

end History

/-- What a sequence of registrations comes to.  A call is refused exactly when its type is
present and may not be replaced, and then the catalogue stays as it was and nothing is
reported; every other call succeeds.  Afterwards a type is presented as in its last
successful registration, else as at the start, else by the fallback.  The types are those of
the start, in their order, followed by the others in the order of their first registration,
each of them once.  Each successful registration is reported once, in order.  The strategies
may be of any kind that says of each whether it presents children. -/
theorem registrations_in_order {σ : Type} [Strategy σ] (start : Catalogue σ)
    (distinct : start.presentations.Distinct) (calls : List (Registration σ)) :
    let history := History.run { catalogue := start } calls
    let successes := history.successes
    (∀ index call, calls[index]? = some call →
      let before := History.run { catalogue := start } (calls.take index)
      let after := History.run { catalogue := start } (calls.take (index + 1))
      let refused := before.catalogue.contains call.tag = true ∧ call.replace = false
      (history.answers[index]? = some (call, .error ⟨call.tag⟩) ↔ refused) ∧
        (history.answers[index]? = some (call, .ok ()) ↔ ¬refused) ∧
        (refused → after.catalogue = before.catalogue ∧ after.events = before.events)) ∧
      (∀ tag,
        let last := (successes.filter fun call => call.tag = tag).getLast?
        let strategy :=
          ((last.map Registration.strategy).or (start.presentations.get? tag)).getD
            start.fallback
        history.catalogue.presentation tag = strategy ∧
          history.catalogue.isContainer tag = Strategy.isContainer strategy ∧
          (history.catalogue.contains tag = true ↔
            tag ∈ start.tags ∨ tag ∈ successes.map Registration.tag)) ∧
      history.catalogue.tags.Nodup ∧
      history.catalogue.tags = start.tags ++
        ((successes.map Registration.tag).removeAll start.tags).eraseDups ∧
      history.events = successes.map fun call => registered call.tag call.strategy := by
  intro history successes
  have follows : History.Follows start history := History.follows_run start calls
  have tags := follows.tags_eq distinct
  refine ⟨?_, ?_, ?_, tags, follows.events⟩
  · intro index call atIndex before after refused
    have answer : history.answers[index]? = _ := History.getElem?_answers_run atIndex
    have stepped : after = before.step call := History.run_take_succ atIndex
    by_cases isRefused : call.IsRefused before.catalogue
    · rw [if_pos isRefused] at answer
      refine ⟨iff_of_true answer isRefused, iff_of_false ?_ (not_not_intro isRefused), ?_⟩
      · intro succeeded
        cases answer.symm.trans succeeded
      · intro _
        rw [stepped, History.step_of_isRefused isRefused]
        exact ⟨rfl, rfl⟩
    · rw [if_neg isRefused] at answer
      refine ⟨iff_of_false ?_ isRefused, iff_of_true answer isRefused, ?_⟩
      · intro failed
        cases answer.symm.trans failed
      · intro refused
        exact absurd refused isRefused
  · intro tag last strategy
    have presented : history.catalogue.presentation tag = strategy := by
      rw [Catalogue.presentation, follows.get?_eq, follows.catalogue]
    refine ⟨presented, congrArg Strategy.isContainer presented, ?_⟩
    have member : tag ∈ history.catalogue.tags ↔
        tag ∈ start.tags ∨ tag ∈ successes.map Registration.tag := by
      by_cases initial : tag ∈ start.tags <;> simp [tags, List.removeAll, initial, successes]
    exact (Table.contains_iff _ _).trans member
  · rw [History.Follows.catalogue follows]
    exact distinct.update _

/-- A new type, one that is refused, a replacement of each kind, and a type that is refused
after its replacement. -/
theorem registrations_of_two_types :
    let start := Catalogue.standard
    let calls : List Registration := [⟨"card", .button, false⟩, ⟨"text", .image, false⟩,
      ⟨"note", .fallback, false⟩, ⟨"text", .container Primitive.view, true⟩, ⟨"card", .text, true⟩,
      ⟨"card", .image, false⟩]
    let history := History.run { catalogue := start } calls
    start.presentations.Distinct ∧
      history.answers[1]? = some (⟨"text", .image, false⟩, .error ⟨"text"⟩) ∧
      history.answers[3]? = some (⟨"text", .container Primitive.view, true⟩, .ok ()) ∧
      history.answers[5]? = some (⟨"card", .image, false⟩, .error ⟨"card"⟩) ∧
      history.catalogue.presentation "card" = .text ∧
      history.catalogue.isContainer "text" = true ∧
      history.catalogue.presentation "video" = .fallback ∧
      history.catalogue.tags = ["container", "scrollview", "text", "image", "button", "card",
        "note"] ∧
      history.events = [.typeRegistered "card" false, .typeRegistered "note" false,
        .typeRegistered "text" true, .typeRegistered "card" false] := by
  intro start calls history
  have distinct : start.presentations.Distinct := by decide
  obtain ⟨answers, lookups, -, tags, events⟩ := registrations_in_order start distinct calls
  have successes : history.successes = [⟨"card", .button, false⟩, ⟨"note", .fallback, false⟩,
      ⟨"text", .container Primitive.view, true⟩, ⟨"card", .text, true⟩] := by
    rfl
  rw [successes] at lookups tags events
  exact ⟨distinct, (answers 1 _ rfl).1.2 (by decide), (answers 3 _ rfl).2.1.2 (by decide),
    (answers 5 _ rfl).1.2 (by decide), (lookups "card").1, (lookups "text").2.1,
    (lookups "video").1, tags, events⟩

end Catalogue

end PageTree
