import PageTree.Host
import PageTree.Json.Writer

/-!
# Elements

A rendered page is a tree of elements, each one a primitive of the host with its
style and properties.  Elements have keys by which they are found, placeholders
where something was defective, and triggers where the user can act.

`Element.walk` lists a tree in depth-first order.  `Element.toValue` is its plain
data, in which absent fields are left out; the triggers are not part of it.
-/

namespace PageTree

/-! ## Names of the host's primitives -/

namespace Primitive

/-- A plain area. -/
def view : String := "View"

/-- A text. -/
def text : String := "Text"

/-- An image. -/
def image : String := "Image"

/-- An area that can be pressed. -/
def touchable : String := "Touchable"

/-- An area that can be scrolled. -/
def scrollView : String := "ScrollView"

end Primitive

/-- An action as it was declared. -/
structure Action where
  kind : Option String
  target : Option String
  deriving DecidableEq, Repr

/-- A primitive of the host with its rendered children. -/
structure Element where
  primitive : String
  key : String
  style : Record := []
  props : Record := []
  text : Option String := none
  source : Option String := none
  children : List Element := []
  placeholder : Option Defect := none
  action : Option Action := none
  /-- What happens when the element is pressed. -/
  onPress : Option Trigger := none
  deriving Inhabited

namespace Element

mutual

/-- The element and all its descendants, depth first and in order. -/
def walk : Element → List Element
  | element@⟨_, _, _, _, _, _, children, _, _, _⟩ => element :: walkAll children
termination_by structural element => element

/-- The elements of several trees. -/
def walkAll : List Element → List Element
  | [] => []
  | element :: rest => element.walk ++ walkAll rest
termination_by structural elements => elements

end

theorem walk_eq (element : Element) :
    element.walk = element :: walkAll element.children := by
  cases element
  rfl

theorem walkAll_eq_flatMap (elements : List Element) :
    walkAll elements = elements.flatMap walk := by
  induction elements with
  | nil => rfl
  | cons element rest ih => simp [walkAll, ih]

/-- The keys of the element and its descendants. -/
def keys (element : Element) : List String :=
  element.walk.map key

/-- The first element with a key. -/
def find? (element : Element) (key : String) : Option Element :=
  element.walk.find? fun found => found.key == key

/-- The element that a path of child positions leads to. -/
def descendant? (element : Element) : List Nat → Option Element
  | [] => some element
  | index :: path =>
      match element.children[index]? with
      | some child => child.descendant? path
      | none => none

/-- Press the element; without a trigger nothing happens. -/
def press (element : Element) : Option Outcome :=
  element.onPress.map Trigger.fire

/-- A field that is left out when it is absent. -/
def optionalField (name : String) : Option Value → Record
  | some value => [(name, value)]
  | none => []

/-- An action as plain data. -/
def actionValue (action : Action) : Value :=
  .object (optionalField "kind" (action.kind.map .string) ++
    optionalField "target" (action.target.map .string))

mutual

/-- A tree as plain data.  The doubles that are no numbers become null. -/
def toValue : Element → Value
  | ⟨primitive, key, style, props, text, source, children, placeholder, action, _⟩ =>
      .object ([("primitive", .string primitive), ("key", .string key),
        ("style", .object (Value.finiteOrNullFields style)),
        ("props", .object (Value.finiteOrNullFields props))] ++
        optionalField "text" (text.map .string) ++
        optionalField "source" (source.map .string) ++
        [("children", .array (toValues children))] ++
        optionalField "placeholder" (placeholder.map fun defect => .string defect.name) ++
        optionalField "action" (action.map actionValue))
termination_by structural element => element

/-- Several trees as plain data. -/
def toValues : List Element → List Value
  | [] => []
  | element :: rest => element.toValue :: toValues rest
termination_by structural elements => elements

end

/-- The text of a tree with an indentation. -/
def dump (element : Element) (indent : Int) : String :=
  Json.dump element.toValue indent

/-- Two triggers agree when both are absent or both are bound to one action. -/
def sameTrigger : Option Trigger → Option Trigger → Bool
  | none, none => true
  | some left, some right => left.sameAction right
  | _, _ => false

mutual

/-- Equality of trees rendered for one host: all fields are equal, styles and
properties by numeric value and without regard to order. -/
def agrees : Element → Element → Bool
  | ⟨primitive, key, style, props, text, source, children, placeholder, action,
      onPress⟩, other =>
      primitive == other.primitive && key == other.key &&
        Value.agrees (.object style) (.object other.style) &&
        Value.agrees (.object props) (.object other.props) &&
        text == other.text && source == other.source &&
        agreesAll children other.children &&
        placeholder == other.placeholder && action == other.action &&
        sameTrigger onPress other.onPress
termination_by structural element => element

/-- Equality of lists of trees, in order. -/
def agreesAll : List Element → List Element → Bool
  | [], [] => true
  | left :: lefts, right :: rights => left.agrees right && agreesAll lefts rights
  | _, _ => false
termination_by structural elements => elements

end

end Element

end PageTree
