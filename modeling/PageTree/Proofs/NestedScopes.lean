import Mathlib.Data.List.Infix
import Mathlib.Logic.Function.Basic
import PageTree.Proofs.Scopes

/-!
# Scopes inside scopes

A program enters and leaves any number of scopes, one inside the other; each may be entered
anew when it has been left.  The names that they bind may be the same.  What a scope saved is
kept in the scope, so nothing but the order of the steps says which value is put back
(`ScopedContext.contexts_nest`).

The invariant is about the stack of active scopes, the innermost first
(`ScopedContext.Tracks`).  The context is the one at the start with the bindings of the stack
written over it, the outermost first.  Each scope on the stack has saved what the stack below
it has for its names, and every other scope has saved nothing.  So leaving the innermost scope
uncovers the context of the stack below it, and leaving a scope that is not active does
nothing.
-/

namespace PageTree

/-- A scope is entered or left. -/
inductive ScopeStep (Index : Type) where
  | enter (scope : Index)
  | leave (scope : Index)
  deriving DecidableEq, Repr

/-- A log context and the scopes of a program, each under an index. -/
structure ScopedContext (Index : Type) where
  scopes : Index → LogScope
  context : LogContext

variable {Index : Type}

/-! ## Contexts and stacks -/

namespace LogContext

/-- The context within a stack of scopes: their bindings written over it, the outermost
first. -/
def within (start : LogContext) (bindings : Index → Record) : List Index → LogContext
  | [] => start
  | scope :: outer => Table.update (within start bindings outer) (bindings scope)

/-- Within a stack, a name has the value of the innermost scope that binds it. -/
theorem get?_within {bindings : Index → Record}
    (distinct : ∀ scope, Table.Distinct (bindings scope)) (start : LogContext)
    (active : List Index) (name : String) :
    Table.get? (start.within bindings active) name =
      (active.findSome? fun scope => Table.get? (bindings scope) name).or
        (Table.get? start name) := by
  induction active with
  | nil => rfl
  | cons scope outer ih =>
      rw [within, Table.get?_update (distinct scope), ih, List.findSome?_cons]
      cases Table.get? (bindings scope) name <;> rfl

end LogContext

namespace ScopedContext

/-- Scopes with these bindings, none of which has been entered. -/
def fresh (bindings : Index → Record) (start : LogContext) : ScopedContext Index :=
  ⟨fun scope => ⟨bindings scope, []⟩, start⟩

/-- The context is that of the stack, each active scope has saved what is below it, and the
others have saved nothing. -/
structure Tracks (bindings : Index → Record) (start : LogContext) (active : List Index)
    (state : ScopedContext Index) : Prop where
  nodup : active.Nodup
  binds : ∀ scope, (state.scopes scope).bindings = bindings scope
  context : state.context = start.within bindings active
  saved : ∀ scope outer, scope :: outer <:+ active → (state.scopes scope).saved =
    LogScope.snapshot (start.within bindings outer) (Table.names (bindings scope))
  idle : ∀ scope ∉ active, (state.scopes scope).saved = []

theorem tracks_fresh (bindings : Index → Record) (start : LogContext) :
    Tracks bindings start [] (fresh bindings start) where
  nodup := List.nodup_nil
  binds _ := rfl
  context := rfl
  saved _ _ below := by simp at below
  idle _ _ := rfl

end ScopedContext

variable [DecidableEq Index]

/-! ## Steps -/

namespace ScopeStep

variable {active : List Index} {front back : List (ScopeStep Index)}

/-- The active scopes behind a step, the innermost first. -/
def stack (active : List Index) : ScopeStep Index → List Index
  | enter scope => scope :: active
  | leave scope => active.erase scope

/-- No active scope is entered again, and of the active scopes the innermost is left. -/
def Nests (active : List Index) : ScopeStep Index → Prop
  | enter scope => scope ∉ active
  | leave scope => scope ∈ active → active.head? = some scope

instance (active : List Index) : (step : ScopeStep Index) → Decidable (step.Nests active)
  | enter scope => inferInstanceAs (Decidable (scope ∉ active))
  | leave scope => inferInstanceAs (Decidable (scope ∈ active → active.head? = some scope))

/-- The active scopes behind several steps, the innermost first. -/
def stackAfter (active : List Index) (steps : List (ScopeStep Index)) : List Index :=
  steps.foldl stack active

/-- Every step nests in those before it. -/
def WellNested (active : List Index) : List (ScopeStep Index) → Prop
  | [] => True
  | step :: rest => step.Nests active ∧ WellNested (step.stack active) rest

instance decidableWellNested (active : List Index) :
    (steps : List (ScopeStep Index)) → Decidable (WellNested active steps)
  | [] => inferInstanceAs (Decidable True)
  | step :: rest =>
      have := decidableWellNested (step.stack active) rest
      inferInstanceAs (Decidable (_ ∧ _))

theorem stackAfter_append (active : List Index) (front back : List (ScopeStep Index)) :
    stackAfter active (front ++ back) = stackAfter (stackAfter active front) back :=
  List.foldl_append

theorem wellNested_append :
    WellNested active (front ++ back) ↔
      WellNested active front ∧ WellNested (stackAfter active front) back := by
  induction front generalizing active with
  | nil => simp [WellNested, stackAfter]
  | cons step rest ih =>
      rw [List.cons_append, WellNested, WellNested, ih, and_assoc]
      rfl

theorem WellNested.of_prefix (nested : WellNested active back) (taken : front <+: back) :
    WellNested active front := by
  obtain ⟨rest, rfl⟩ := taken
  exact (wellNested_append.1 nested).1

/-- Leaving a scope that is not active leaves the stack as it is. -/
theorem stack_leave {scope : Index} (idle : scope ∉ active) :
    (leave scope).stack active = active :=
  List.erase_of_not_mem idle

/-- Leaving the innermost scope uncovers the stack below it. -/
theorem stack_leave_innermost (scope : Index) (outer : List Index) :
    (leave scope).stack (scope :: outer) = outer :=
  List.erase_cons_head ..

/-- As long as a scope is not left, it stays on the stack, and so do those below it. -/
theorem exists_stackAfter_eq {scope : Index} {outer above : List Index}
    {inside : List (ScopeStep Index)} (nested : WellNested (above ++ scope :: outer) inside)
    (unleft : leave scope ∉ inside) :
    ∃ top, stackAfter (above ++ scope :: outer) inside = top ++ scope :: outer := by
  induction inside generalizing above with
  | nil => exact ⟨above, rfl⟩
  | cons step rest ih =>
      obtain ⟨nests, nestedRest⟩ := nested
      obtain ⟨different, unleftRest⟩ : step ≠ leave scope ∧ leave scope ∉ rest := by
        simpa [eq_comm] using unleft
      cases step with
      | enter other => exact @ih (other :: above) nestedRest unleftRest
      | leave other =>
          have notScope : scope ≠ other := by
            rintro rfl
            exact different rfl
          by_cases active : other ∈ above ++ scope :: outer
          · have innermost := nests active
            cases above with
            | nil => exact absurd (Option.some.inj innermost) notScope
            | cons first below =>
                obtain rfl : first = other := Option.some.inj innermost
                rw [List.cons_append, stack_leave_innermost] at nestedRest
                rw [stackAfter, List.foldl_cons, List.cons_append, stack_leave_innermost]
                exact ih nestedRest unleftRest
          · rw [stack_leave active] at nestedRest
            rw [stackAfter, List.foldl_cons, stack_leave active]
            exact ih nestedRest unleftRest

/-- When a scope is left for the first time, the stack is that from before it was entered. -/
theorem stackAfter_first_leave {scope : Index} {outer : List Index}
    {inside : List (ScopeStep Index)}
    (nested : WellNested outer (enter scope :: (inside ++ [leave scope])))
    (unleft : leave scope ∉ inside) (nodup : (stackAfter (scope :: outer) inside).Nodup) :
    stackAfter outer (enter scope :: (inside ++ [leave scope])) = outer := by
  obtain ⟨nestedInside, nests, -⟩ := wellNested_append.1 nested.2
  obtain ⟨top, stacked⟩ := @exists_stackAfter_eq _ _ scope outer [] inside nestedInside unleft
  have split : stackAfter outer (enter scope :: (inside ++ [leave scope])) =
      (stackAfter (scope :: outer) inside).erase scope :=
    stackAfter_append (scope :: outer) inside [leave scope]
  have stackedInside : stackAfter (scope :: outer) inside = top ++ scope :: outer := stacked
  have member : scope ∈ stackAfter (scope :: outer) inside := by simp [stackedInside]
  have innermost : (stackAfter (scope :: outer) inside).head? = some scope := nests member
  rw [stackedInside] at nodup innermost
  rw [split, stackedInside]
  cases top with
  | nil => exact stack_leave_innermost scope outer
  | cons first below =>
      obtain rfl : first = scope := Option.some.inj innermost
      exact absurd nodup (by simp)

end ScopeStep

namespace ScopedContext

open ScopeStep

variable {bindings : Index → Record} {start : LogContext} {state : ScopedContext Index}
variable {active outer : List Index} {scope : Index} {steps : List (ScopeStep Index)}

/-- Enter or leave one of the scopes. -/
def step (state : ScopedContext Index) : ScopeStep Index → ScopedContext Index
  | .enter scope =>
      let (entered, context) := (state.scopes scope).enter state.context
      ⟨Function.update state.scopes scope entered, context⟩
  | .leave scope =>
      let (left, context) := (state.scopes scope).leave state.context
      ⟨Function.update state.scopes scope left, context⟩

/-- Take several steps. -/
def run (state : ScopedContext Index) (steps : List (ScopeStep Index)) : ScopedContext Index :=
  steps.foldl step state

theorem run_append (state : ScopedContext Index) (front back : List (ScopeStep Index)) :
    state.run (front ++ back) = (state.run front).run back :=
  List.foldl_append

/-! ## What the steps keep -/

/-- A scope that has saved nothing is left without any effect. -/
theorem step_leave (forgotten : (state.scopes scope).saved = []) :
    state.step (.leave scope) = state := by
  have kept : (⟨(state.scopes scope).bindings, []⟩ : LogScope) = state.scopes scope := by
    rw [← forgotten]
  simp only [step, LogScope.leave, forgotten, kept, List.foldl_nil, Function.update_eq_self]

theorem Tracks.enter (tracks : Tracks bindings start active state) (inactive : scope ∉ active) :
    Tracks bindings start (scope :: active) (state.step (.enter scope)) where
  nodup := List.nodup_cons.2 ⟨inactive, tracks.nodup⟩
  binds other := by
    by_cases same : other = scope
    · subst other
      simp [step, LogScope.enter, tracks.binds]
    · simp [step, same, tracks.binds]
  context := by
    simp only [step, LogScope.enter, LogContext.within, tracks.binds, tracks.context]
  saved other outer below := by
    rcases List.suffix_cons_iff.1 below with ⟨rfl, rfl⟩ | deeper
    · simp [step, LogScope.enter, tracks.binds, tracks.context]
    · have different : other ≠ scope := by
        rintro rfl
        exact inactive (deeper.subset List.mem_cons_self)
      simp [step, different, tracks.saved other outer deeper]
  idle other others := by
    obtain ⟨different, idle⟩ : other ≠ scope ∧ other ∉ active := by simpa using others
    simp [step, different, tracks.idle other idle]

/-- Leaving the innermost scope uncovers the context below it. -/
theorem Tracks.leave (distinct : ∀ scope, Table.Distinct (bindings scope))
    (tracks : Tracks bindings start (scope :: outer) state) :
    Tracks bindings start outer (state.step (.leave scope)) where
  nodup := (List.nodup_cons.1 tracks.nodup).2
  binds other := by
    by_cases same : other = scope
    · subst other
      simp [step, LogScope.leave, tracks.binds]
    · simp [step, same, tracks.binds]
  context := by
    have saved := tracks.saved scope outer (List.suffix_refl _)
    have covered : state.context =
        Table.update (start.within bindings outer) (bindings scope) := tracks.context
    simp only [step, LogScope.leave, saved, covered]
    exact LogScope.foldl_restoreEntry_update _ (distinct scope)
  saved other below under := by
    have different : other ≠ scope := by
      rintro rfl
      exact (List.nodup_cons.1 tracks.nodup).1 (under.subset List.mem_cons_self)
    simp [step, different,
      tracks.saved other below (under.trans (List.suffix_cons scope outer))]
  idle other inactive := by
    by_cases same : other = scope
    · subst other
      simp [step, LogScope.leave]
    · simp [step, same, tracks.idle other (by simp [same, inactive])]

/-- Every step that nests keeps the invariant. -/
theorem Tracks.step (distinct : ∀ scope, Table.Distinct (bindings scope))
    (tracks : Tracks bindings start active state) {next : ScopeStep Index}
    (nests : next.Nests active) :
    Tracks bindings start (next.stack active) (state.step next) := by
  cases next with
  | enter scope => exact tracks.enter nests
  | leave scope =>
      by_cases inside : scope ∈ active
      · have innermost := nests inside
        cases active with
        | nil => cases inside
        | cons first outer =>
            obtain rfl : first = scope := Option.some.inj innermost
            rw [stack_leave_innermost]
            exact tracks.leave distinct
      · rw [stack_leave inside, step_leave (tracks.idle scope inside)]
        exact tracks

theorem Tracks.run (distinct : ∀ scope, Table.Distinct (bindings scope))
    (tracks : Tracks bindings start active state) (nested : WellNested active steps) :
    Tracks bindings start (stackAfter active steps) (state.run steps) := by
  induction steps generalizing active state with
  | nil => exact tracks
  | cons next rest ih =>
      obtain ⟨nests, nestedRest⟩ := nested
      exact ih (tracks.step distinct nests) nestedRest

/-- What scopes come to that are entered and left one inside the other.  When a scope is left,
for the first time since it was entered, the context is the one from before it was entered.
At any time a name has the value of the innermost active scope that binds it, and the value at
the start if no active scope does.  Leaving a scope that is not active changes nothing, and it
does not matter where this is done. -/
theorem contexts_nest {bindings : Index → Record}
    (distinct : ∀ scope, Table.Distinct (bindings scope)) (start : LogContext)
    {steps : List (ScopeStep Index)} (nested : WellNested [] steps) :
    let behind (taken : List (ScopeStep Index)) := (fresh bindings start).run taken
    (∀ before inside scope, before ++ .enter scope :: (inside ++ [.leave scope]) <+: steps →
        .leave scope ∉ inside →
        (behind (before ++ .enter scope :: (inside ++ [.leave scope]))).context =
          (behind before).context) ∧
      (∀ taken name, taken <+: steps → Table.get? (behind taken).context name =
        ((stackAfter [] taken).findSome? fun scope => Table.get? (bindings scope) name).or
          (Table.get? start name)) ∧
      ∀ before scope, before ++ [.leave scope] <+: steps → scope ∉ stackAfter [] before →
        behind (before ++ [.leave scope]) = behind before := by
  intro behind
  have tracks {taken : List (ScopeStep Index)} (within : taken <+: steps) :
      Tracks bindings start (stackAfter [] taken) (behind taken) :=
    (tracks_fresh bindings start).run distinct (nested.of_prefix within)
  refine ⟨?_, ?_, ?_⟩
  · intro before inside scope within unleft
    have earlier : before <+: steps := (List.prefix_append before _).trans within
    have unfinished : before ++ .enter scope :: inside <+: steps := by
      refine List.IsPrefix.trans ⟨[.leave scope], ?_⟩ within
      simp
    have nodup := (tracks unfinished).nodup
    rw [stackAfter_append] at nodup
    have nestedHere := (wellNested_append.1 (nested.of_prefix within)).2
    have sameStack := stackAfter_first_leave nestedHere unleft nodup
    rw [(tracks within).context, stackAfter_append, sameStack, (tracks earlier).context]
  · intro taken name within
    rw [(tracks within).context, LogContext.get?_within distinct]
  · intro before scope within inactive
    have earlier : before <+: steps := (List.prefix_append before _).trans within
    have stepped : behind (before ++ [.leave scope]) = (behind before).step (.leave scope) :=
      run_append _ before [.leave scope]
    rw [stepped, step_leave ((tracks earlier).idle scope inactive)]

/-- Three scopes that share names.  The last is left before it is entered, the first is entered
twice, inside different scopes, and a name is bound to null. -/
theorem contexts_nest_with_shared_names :
    let bindings : Nat → Record
      | 0 => [("page", .string "outer"), ("user", .int 1)]
      | 1 => [("page", .null), ("extra", .bool true)]
      | _ => [("extra", .int 2), ("host", .string "h")]
    let start : LogContext := [("host", .string "start"), ("page", .int 0)]
    let inside : List (ScopeStep Nat) :=
      [.enter 0, .leave 0, .leave 2, .enter 2, .enter 0, .leave 0, .leave 2]
    let steps : List (ScopeStep Nat) := .leave 2 :: .enter 1 :: (inside ++ [.leave 1])
    let behind (count : Nat) := (fresh bindings start).run (steps.take count)
    (∀ scope, Table.Distinct (bindings scope)) ∧ WellNested [] steps ∧
      (behind 10).context = start ∧ (behind 9).context = (behind 5).context ∧
      Table.get? (behind 7).context "page" = some (.string "outer") ∧
      Table.get? (behind 7).context "extra" = some (.int 2) ∧
      Table.get? (behind 9).context "page" = some .null ∧
      Table.get? (behind 9).context "host" = some (.string "start") ∧
      behind 5 = behind 4 := by
  intro bindings start inside steps behind
  have distinct : ∀ scope, Table.Distinct (bindings scope)
    | 0 | 1 => by decide
    | _ + 2 => show Table.Distinct (bindings 2) by decide
  have nested : WellNested [] steps := by decide
  obtain ⟨restored, values, idle⟩ := contexts_nest distinct start nested
  have outermost := restored [.leave 2] inside 1 (List.prefix_refl _) (by decide)
  have innermost := restored (steps.take 5) [.enter 0, .leave 0] 2 ⟨_, rfl⟩ (by decide)
  exact ⟨distinct, nested, outermost, innermost, values _ "page" ⟨_, rfl⟩,
    values _ "extra" ⟨_, rfl⟩, values _ "page" ⟨_, rfl⟩, values _ "host" ⟨_, rfl⟩,
    idle (steps.take 4) 2 ⟨_, rfl⟩ (by decide)⟩

end ScopedContext

end PageTree
