import Mathlib.Data.List.Basic
import Mathlib.Data.List.Induction

/-!
# Transcripts

A machine that is called again and again may put its answer to each call behind those before
it (`Transcript.Grows`).  Then nothing that was answered is lost: the answers to the first calls
are the first answers (`Grows.take`), and each call is answered as the machine does in the state
that the call meets (`Grows.getElem?`).
-/

namespace PageTree.Transcript

variable {State Call Answer : Type} {step : State → Call → State}
variable {answers : State → List Answer} {answer : State → Call → Answer}
variable {start : State} {calls : List Call} {call : Call} {index : Nat}

/-- Each step puts one answer behind those before it. -/
def Grows (step : State → Call → State) (answers : State → List Answer)
    (answer : State → Call → Answer) : Prop :=
  ∀ state call, answers (step state call) = answers state ++ [answer state call]

/-- Further calls leave the answers that were given. -/
theorem Grows.isPrefix_answers (grows : Grows step answers answer) (start : State)
    (calls : List Call) : answers start <+: answers (calls.foldl step start) := by
  induction calls using List.reverseRecOn with
  | nil => exact List.prefix_rfl
  | append_singleton calls call ih =>
      rw [List.foldl_concat, grows]
      exact ih.trans (List.prefix_append _ _)

/-- Every call is answered. -/
theorem Grows.length (grows : Grows step answers answer) (start : State) (calls : List Call) :
    (answers (calls.foldl step start)).length = (answers start).length + calls.length := by
  induction calls using List.reverseRecOn with
  | nil => rfl
  | append_singleton calls call ih =>
      rw [List.foldl_concat, grows, List.length_append, ih, List.length_append, Nat.add_assoc]
      rfl

theorem Grows.length_take (grows : Grows step answers answer) (unused : answers start = [])
    (within : index ≤ calls.length) :
    (answers ((calls.take index).foldl step start)).length = index := by
  rw [grows.length, unused, List.length_take_of_le within]
  exact Nat.zero_add index

/-- The answers so far are those to the calls so far. -/
theorem Grows.take (grows : Grows step answers answer) (unused : answers start = [])
    (within : index ≤ calls.length) :
    (answers (calls.foldl step start)).take index =
      answers ((calls.take index).foldl step start) := by
  have earlier := grows.isPrefix_answers ((calls.take index).foldl step start) (calls.drop index)
  rw [← List.foldl_append, List.take_append_drop] at earlier
  rw [List.prefix_iff_eq_take.1 earlier, grows.length_take unused within]

/-- Each call is answered in the state that it meets. -/
theorem Grows.getElem? (grows : Grows step answers answer) (unused : answers start = [])
    (atIndex : calls[index]? = some call) :
    (answers (calls.foldl step start))[index]? =
      some (answer ((calls.take index).foldl step start) call) := by
  have within : index < calls.length := (List.getElem?_eq_some_iff.1 atIndex).1
  have stepped : calls.take (index + 1) = calls.take index ++ [call] := by
    rw [List.take_add_one, atIndex]
    rfl
  have before := grows.length_take unused (Nat.le_of_lt within)
  rw [← List.getElem?_take_of_lt (Nat.lt_succ_self index), grows.take unused within, stepped,
    List.foldl_concat, grows, List.getElem?_append_right (Nat.le_of_eq before), before,
    Nat.sub_self]
  rfl

end PageTree.Transcript
