import PageTree.Defect
import PageTree.Value

/-!
# Log events

Everything the library reports while it works, one constructor per event.  An
event has a severity, a name, and named fields; these three are what a log shows
of it.
-/

namespace PageTree

/-- How serious an event is. -/
inductive Severity where
  | debug
  | info
  | warning
  | error
  | critical
  deriving DecidableEq, Repr

/-- The name of a severity. -/
def Severity.name : Severity → String
  | debug => "debug"
  | info => "info"
  | warning => "warning"
  | error => "error"
  | critical => "critical"

/-- What a degraded component is missing. -/
inductive DefectDetail where
  | none
  /-- The name of the missing field. -/
  | field (name : String)
  /-- The type that nothing is registered for. -/
  | componentType (tag : String)
  /-- The kind of the value that stands for a component. -/
  | valueKind (kind : String)
  deriving DecidableEq, Repr

/-- Why an action had no effect. -/
inductive IgnoreReason where
  /-- The action lacks its kind or its target. -/
  | incomplete
  /-- The host has no capability for the kind. -/
  | unhandled
  deriving DecidableEq, Repr

/-- The name of a reason. -/
def IgnoreReason.name : IgnoreReason → String
  | incomplete => "incomplete"
  | unhandled => "unhandled"

/-- What is reported. -/
inductive Event where
  /-- A component was replaced or completed by a placeholder. -/
  | degradedRender (defect : Defect) (key : String) (detail : DefectDetail)
  /-- A component is nested too deeply. -/
  | depthExceeded (key : String) (maxDepth : Nat)
  /-- The whole page is a placeholder. -/
  | renderPlaceholder (defect : Defect)
  /-- The components of a page are not a list. -/
  | invalidComponents (kind : String)
  /-- A page was rendered. -/
  | renderComplete (nodes placeholders : Nat)
  /-- A presentation was registered for a component type. -/
  | typeRegistered (tag : String) (container : Bool)
  /-- An action had no effect. -/
  | actionIgnored (kind target : Option String) (reason : IgnoreReason)
  /-- An action reached its capability. -/
  | actionTriggered (kind target : String)
  /-- A theme file could not be read. -/
  | themeLoadFailed (path error : String)
  /-- A theme file was read. -/
  | themeLoaded (path : String) (styles : Nat)
  /-- A page description could not be decoded. -/
  | descriptorDecodeFailed (error : String)
  /-- A page description was refused; decoded ones with the refused kind. -/
  | validation (error : String) (refusedKind : Option String)
  /-- A page was rendered and written; the size counts characters. -/
  | complete (size : Nat)
  deriving DecidableEq, Repr

namespace Event

/-- The severity of an event. -/
def severity : Event → Severity
  | degradedRender .. | actionIgnored .. => .debug
  | renderPlaceholder .. | renderComplete .. | typeRegistered ..
  | actionTriggered .. | themeLoaded .. | complete .. => .info
  | depthExceeded .. | invalidComponents .. => .warning
  | themeLoadFailed .. | descriptorDecodeFailed .. | validation .. => .error

/-- The name of an event. -/
def name : Event → String
  | degradedRender .. => "degraded_render"
  | depthExceeded .. => "depth_exceeded"
  | renderPlaceholder .. => "render_placeholder"
  | invalidComponents .. => "invalid_components"
  | renderComplete .. => "render_complete"
  | typeRegistered .. => "strategy_registered"
  | actionIgnored .. => "action_ignored"
  | actionTriggered .. => "action_triggered"
  | themeLoadFailed .. => "theme_load_failed"
  | themeLoaded .. => "theme_loaded"
  | descriptorDecodeFailed .. => "descriptor_decode_failed"
  | validation .. => "validation"
  | complete .. => "complete"

/-- A number as a field. -/
def count (number : Nat) : Value := .int number

/-- The field that tells what a degraded component is missing. -/
def detailFields : DefectDetail → Record
  | .none => []
  | .field name => [("field", .string name)]
  | .componentType tag => [("type", .string tag)]
  | .valueKind kind => [("value_type", .string kind)]

/-- The fields of an event. -/
def fields : Event → Record
  | degradedRender defect key detail =>
      [("kind", .string defect.name), ("key", .string key)] ++ detailFields detail
  | depthExceeded key maxDepth =>
      [("key", .string key), ("max_depth", count maxDepth)]
  | renderPlaceholder defect => [("kind", .string defect.name)]
  | invalidComponents kind => [("type", .string kind)]
  | renderComplete nodes placeholders =>
      [("nodes", count nodes), ("placeholders", count placeholders)]
  | typeRegistered tag container =>
      [("tag", .string tag), ("container", .bool container)]
  | actionIgnored kind target reason =>
      [("kind", Value.ofString? kind), ("target", Value.ofString? target),
        ("reason", .string reason.name)]
  | actionTriggered kind target =>
      [("kind", .string kind), ("target", .string target)]
  | themeLoadFailed path error => [("path", .string path), ("error", .string error)]
  | themeLoaded path styles => [("path", .string path), ("styles", count styles)]
  | descriptorDecodeFailed error => [("error", .string error)]
  | validation error none => [("error", .string error)]
  | validation error (some kind) =>
      [("error", .string error), ("field", .string "descriptor"),
        ("value", .string kind)]
  | complete size => [("size", count size)]

/-- The defect that an event reports for one component, with the key under which
it is reported. -/
def degraded? : Event → Option (Defect × String)
  | degradedRender defect key _ => some (defect, key)
  | _ => none

end Event

end PageTree
