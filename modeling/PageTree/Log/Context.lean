import PageTree.Event

/-!
# Log contexts

A log context is a table of values that are shown with every event.  A *scope*
binds some of them for a while: entering it remembers, for each of its names, the
value before or that there was none, and leaving it puts these back.  A scope
that is left without having been entered changes nothing.
-/

namespace PageTree

/-- Values shown with every event. -/
abbrev LogContext := Table Value

/-- Bindings for a while, and what they replaced. -/
structure LogScope where
  bindings : Record
  /-- For each bound name the value before, if there was one. -/
  saved : List (String × Option Value) := []

namespace LogScope

/-- The values of some names in a context, or their absence. -/
def snapshot (context : LogContext) (names : List String) :
    List (String × Option Value) :=
  names.map fun name => (name, Table.get? context name)

/-- Put a name's earlier value back, or remove the name. -/
def restoreEntry (context : LogContext) (entry : String × Option Value) : LogContext :=
  match entry.2 with
  | some value => Table.insert context entry.1 value
  | none => Table.erase context entry.1

/-- Enter the scope: what it saved earlier is replaced. -/
def enter (scope : LogScope) (context : LogContext) : LogScope × LogContext :=
  (⟨scope.bindings, snapshot context (Table.names scope.bindings)⟩,
    Table.update context scope.bindings)

/-- Leave the scope: what it saved is put back and forgotten. -/
def leave (scope : LogScope) (context : LogContext) : LogScope × LogContext :=
  (⟨scope.bindings, []⟩, scope.saved.foldl restoreEntry context)

end LogScope

/-- An event with the context it was reported in. -/
structure LogEntry where
  event : Event
  context : LogContext

/-- The fields shown of an entry: those of the event, and of the context those
that the event does not have. -/
def LogEntry.fields (entry : LogEntry) : Record :=
  Table.update entry.context entry.event.fields

/-- Events reported in one context. -/
def logIn (context : LogContext) (events : List Event) : List LogEntry :=
  events.map fun event => ⟨event, context⟩

end PageTree
