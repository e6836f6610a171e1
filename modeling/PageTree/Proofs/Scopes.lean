import PageTree.Log.Context
import PageTree.Proofs.Tables

/-!
# Scopes leave the context as it was

A scope that is entered and left again restores the log context: values that it
replaced are put back in their places, and names that it added are gone
(`LogScope.leave_enter`).  The names that the context binds already are no exception.

The induction is on the bindings.  Restoring the first one can be done before the
others are written, because these have other names and the first is there by then.
-/

namespace PageTree.LogScope

variable {context : LogContext} {name : String} {saved : Option Value}

/-- Putting back what was there undoes one binding. -/
theorem restoreEntry_insert (context : LogContext) (name : String) (value : Value) :
    restoreEntry (Table.insert context name value) (name, Table.get? context name) =
      context := by
  cases found : Table.get? context name with
  | none => exact Table.erase_insert value found
  | some old =>
      have restored := Table.insert_insert context name old value
      rw [Table.insert_of_get?_eq found] at restored
      exact restored

/-- Restoring a name that is there does not concern the bindings of other names. -/
theorem restoreEntry_update (bindings : Record) (present : name ∈ Table.names context)
    (absent : name ∉ Table.names bindings) :
    restoreEntry (Table.update context bindings) (name, saved) =
      Table.update (restoreEntry context (name, saved)) bindings := by
  induction bindings generalizing context with
  | nil => rfl
  | cons binding rest ih =>
      obtain ⟨other, value⟩ := binding
      simp only [Table.names, List.map_cons, List.mem_cons, not_or] at absent
      have later : restoreEntry (Table.update (Table.insert context other value) rest)
          (name, saved) =
            Table.update (restoreEntry (Table.insert context other value) (name, saved)) rest :=
        ih (Table.mem_names_insert value present) absent.2
      have first : restoreEntry (Table.insert context other value) (name, saved) =
          Table.insert (restoreEntry context (name, saved)) other value := by
        cases saved with
        | none => exact Table.erase_insert_of_ne context value absent.1
        | some old => exact Table.insert_comm_of_mem old value present absent.1
      rw [first] at later
      exact later

/-- Putting back what all bindings replaced undoes all of them. -/
theorem foldl_restoreEntry_update (context : LogContext) {bindings : Record}
    (distinct : Table.Distinct bindings) :
    (snapshot context (Table.names bindings)).foldl restoreEntry
      (Table.update context bindings) = context := by
  induction bindings with
  | nil => rfl
  | cons binding rest ih =>
      obtain ⟨name, value⟩ := binding
      obtain ⟨absent, distinctRest⟩ := List.nodup_cons.1 distinct
      have undone : restoreEntry
          (Table.update (Table.insert context name value) rest)
          (name, Table.get? context name) = Table.update context rest := by
        rw [restoreEntry_update rest (Table.mem_names_insert_self context name value) absent,
          restoreEntry_insert]
      have restored := ih distinctRest
      rw [← undone] at restored
      exact restored

/-- A scope that is left as soon as it has been entered leaves the context as it was, and
nothing remains to be put back. -/
theorem leave_enter (scope : LogScope) (context : LogContext)
    (distinct : Table.Distinct scope.bindings) :
    (scope.enter context).1.leave (scope.enter context).2 = (⟨scope.bindings, []⟩, context) := by
  have restored := foldl_restoreEntry_update context distinct
  simp only [enter, leave, restored]

end PageTree.LogScope
