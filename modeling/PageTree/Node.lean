import PageTree.Value

/-!
# Nodes

A node is a component of a page description, brought into one of three shapes
when it is first visited: a leaf that shows its own fields, a container of
further components, or a malformed value.  `Node.ofValue` never fails: what has
the wrong form counts as absent.
-/

namespace PageTree

/-- A component in its normal shape. -/
inductive Node where
  /-- Shows fields of `payload`, the component as it was described. -/
  | leaf (type : String) (props style payload : Record)
  /-- Holds further components, not yet visited. -/
  | container (type : String) (props style : Record) (children : List Value)
  /-- Neither an object nor text. -/
  | malformed (kind : String)
  deriving Inhabited, Repr

namespace Node

/-- The type of text that stands for a component. -/
def textType : String := "text"

/-- The type of a component that names none. -/
def unknownType : String := "unknown"

/-- The type under which malformed components are reported. -/
def malformedType : String := "malformed"

/-- The type that an object describes: non-empty text, or the unknown type. -/
def typeOf (fields : Record) : String :=
  match Table.get? fields "type" with
  | some (.string type) => if type = "" then unknownType else type
  | _ => unknownType

/-- A field that is meant to be an object. -/
def recordField (fields : Record) (name : String) : Record :=
  match Table.get? fields name with
  | some value => value.recordOrEmpty
  | none => []

/-- The children that an object describes. -/
def childrenOf (fields : Record) : List Value :=
  match Table.get? fields "children" with
  | some value => value.itemsOrEmpty
  | none => []

/-- A component from its description.  Text is a leaf that shows itself; an
object is a container if its type is one. -/
def ofValue (isContainer : String → Bool) : Value → Node
  | .string text => leaf textType [] [] [("content", .string text)]
  | .object fields =>
      if isContainer (typeOf fields) then
        container (typeOf fields) (recordField fields "props")
          (recordField fields "style") (childrenOf fields)
      else
        leaf (typeOf fields) (recordField fields "props") (recordField fields "style")
          fields
  | other => malformed other.kindName

/-- The type of a node. -/
def type : Node → String
  | leaf type .. => type
  | container type .. => type
  | malformed _ => malformedType

/-- The style that a node asks for. -/
def style : Node → Record
  | leaf _ _ style _ => style
  | container _ _ style _ => style
  | malformed _ => []

end Node

/-- A field of a leaf as text. -/
def Record.text? (payload : Record) (name : String) :
    Except Numeral.DigitLimitError (Option String) :=
  match Table.get? payload name with
  | some value => value.asText?
  | none => .ok none

end PageTree
