/-!
# Defects

What can be wrong with a page.  No defect stops a rendering: each one is shown
by a placeholder in the tree.
-/

namespace PageTree

/-- The reasons for a placeholder. -/
inductive Defect where
  /-- There is no page description. -/
  | configurationMissing
  /-- The page description lists no components. -/
  | configurationEmpty
  /-- No presentation is registered for the type of a component. -/
  | unknownComponentType
  /-- A component lacks the field that it shows. -/
  | malformedLeafPayload
  /-- A component is neither an object nor text. -/
  | malformedNode
  /-- A component is nested too deeply. -/
  | depthExceeded
  deriving DecidableEq, Repr

namespace Defect

/-- The name of a defect in trees and logs. -/
def name : Defect → String
  | configurationMissing => "configuration_missing"
  | configurationEmpty => "configuration_empty"
  | unknownComponentType => "unknown_component_type"
  | malformedLeafPayload => "malformed_leaf_payload"
  | malformedNode => "malformed_node"
  | depthExceeded => "depth_exceeded"

/-- All defects. -/
def all : List Defect :=
  [configurationMissing, configurationEmpty, unknownComponentType,
    malformedLeafPayload, malformedNode, depthExceeded]

@[simp] theorem mem_all (defect : Defect) : defect ∈ all := by
  cases defect <;> decide

theorem name_injective : Function.Injective name := by
  intro left right
  cases left <;> cases right <;> decide

end Defect

end PageTree
