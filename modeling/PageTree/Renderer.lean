import PageTree.Catalogue
import PageTree.Descriptor
import PageTree.Node
import PageTree.Report
import PageTree.Theme

/-!
# Rendering

A renderer turns a page descriptor into a tree of elements in one walk.  Each
component is brought into its normal shape, styled from the theme and presented
as the catalogue says.  Whatever is defective becomes a placeholder, and the walk
goes on.

The walk itself knows nothing of how components are presented: it works for every
kind of strategies that can be carried out (`Presents`).

The position of a component is the path of indices from the top.  Components are
rendered at `maxDepth` levels; one more level is looked at, and an object or text
found there is replaced by a notice.  The walk is therefore a recursion on the
number of levels that are left, and it reads nothing below the notice.
-/

namespace PageTree

/-- The indices that lead from the top of a page to a component. -/
abbrev Path := List Int

/-- The key of a component: its type and its path. -/
def identityKey (type : String) (path : Path) : String :=
  type ++ "_" ++ ".".intercalate (path.map Numeral.text)

/-- The key of an element that shows text for another one. -/
def labelKey (key : String) : String :=
  key ++ "/label"

/-- The limit on nesting is not positive. -/
structure DepthLimitError where
  deriving DecidableEq, Repr

/-- The wording of the error. -/
def DepthLimitError.message (_ : DepthLimitError) : String :=
  "max_depth must be positive"

/-- What a rendering depends on besides the page. -/
structure Renderer (σ : Type := Presentation) where
  theme : Theme
  catalogue : Catalogue σ
  host : Host
  maxDepth : Nat
  maxDepth_pos : 0 < maxDepth

/-- A kind of strategies that can be carried out. -/
class Presents (σ : Type) where
  /-- Present a component with its key, style and path.  The strategy is given the
  renderer and a procedure to render children below the component. -/
  present (renderer : Renderer σ) (strategy : σ)
    (renderAll : List Value → Report (List Element)) (node : Node) (key : String)
    (style : Record) (path : Path) : Report Element

namespace Renderer

variable {σ : Type}

/-- A renderer, if the limit on nesting is positive. -/
def make? (theme : Theme) (catalogue : Catalogue σ) (host : Host) (maxDepth : Int) :
    Except DepthLimitError (Renderer σ) :=
  if isPositive : 0 < maxDepth.toNat then
    .ok ⟨theme, catalogue, host, maxDepth.toNat, isPositive⟩
  else .error ⟨⟩

/-- A renderer with everything built in, for a host. -/
def standard (host : Host) : Renderer :=
  ⟨Theme.standard, Catalogue.standard, host, 128, Nat.succ_pos 127⟩

/-! ## Placeholders -/

/-- The text in place of a page that is missing. -/
def missingText : String := "Page configuration is empty"

/-- The text in place of a page without components. -/
def emptyText : String := "Nothing to display"

/-- The text in place of a component that is nested too deeply. -/
def tooDeepText : String := "Component nesting too deep"

/-- The text in place of a value that is no component. -/
def malformedText (kind : String) : String :=
  "Invalid component (" ++ kind ++ ")"

/-- A result that has a placeholder for a defect. -/
def flagged {α : Type} (defect : Defect) (key : String) (detail : DefectDetail)
    (value : α) : Report α :=
  ((Report.result value).flagging defect).reporting (.degradedRender defect key detail)

/-- A text in the style of placeholders, for another element. -/
def fallbackLabel (renderer : Renderer σ) (key text : String) : Element :=
  { primitive := Primitive.text
    key := labelKey key
    style := renderer.theme.base "fallbackText"
    text := some text }

/-- The notice in place of a component. -/
def notice (renderer : Renderer σ) (key text : String) (defect : Defect) : Element :=
  { primitive := Primitive.view
    key
    children := [renderer.fallbackLabel key text]
    placeholder := some defect }

/-! ## Presentation of one component -/

/-- A text component shows its content. -/
def presentText (key : String) (style props payload : Record) : Report Element :=
  .reading (payload.text? "content") fun
    | some content =>
        .result { primitive := Primitive.text, key, style, props, text := some content }
    | none =>
        flagged .malformedLeafPayload key (.field "content")
          { primitive := Primitive.text, key, style, props, text := some ""
            placeholder := some .malformedLeafPayload }

/-- An image component shows its source, unless that is absent or empty. -/
def presentImage (renderer : Renderer) (key : String) (style props payload : Record) :
    Report Element :=
  .reading (payload.text? "source") fun source =>
    match Host.given? source with
    | some source =>
        .result { primitive := Primitive.image, key, style, props, source := some source }
    | none =>
        flagged .malformedLeafPayload key (.field "source")
          { primitive := Primitive.view
            key
            style := mergeStyle style (renderer.theme.base "imagePlaceholder")
            props
            placeholder := some .malformedLeafPayload }

/-- The label of a button, with a placeholder when it has no text. -/
def presentLabel (renderer : Renderer) (key : String) (payload : Record) :
    Report Element :=
  .reading (payload.text? "text") fun text =>
    let label : Element :=
      { primitive := Primitive.text
        key := labelKey key
        style := renderer.theme.base "buttonText"
        text := some (text.getD "") }
    match text with
    | some _ => .result label
    | none =>
        flagged .malformedLeafPayload key (.field "text")
          { label with placeholder := some .malformedLeafPayload }

/-- The action that a button declares, unless both its parts are absent. -/
def declaredAction? (payload : Record) : Option Action :=
  match (Table.get? payload "action").bind Value.string?,
    (Table.get? payload "target").bind Value.string? with
  | none, none => none
  | kind, target => some ⟨kind, target⟩

/-- A button component has a label and a trigger for its action. -/
def presentButton (renderer : Renderer) (key : String) (style props payload : Record) :
    Report Element :=
  (renderer.presentLabel key payload).map fun label =>
    { primitive := Primitive.touchable
      key
      style
      props
      children := [label]
      action := declaredAction? payload
      onPress := (declaredAction? payload).map fun action =>
        ⟨renderer.host, action.kind, action.target⟩ }

/-- A component of unknown type shows its type. -/
def presentFallback (renderer : Renderer) (type key : String) (style : Record) :
    Report Element :=
  flagged .unknownComponentType key (.componentType type)
    { primitive := Primitive.view
      key
      style
      children := [renderer.fallbackLabel key type]
      placeholder := some .unknownComponentType }

/-- Present a component in one of the built-in ways.  `renderAll` renders the children
of a container.  A leaf has none to render, and a container has no fields to
show. -/
def present (renderer : Renderer) (presentation : Presentation)
    (renderAll : List Value → Report (List Element)) (node : Node) (key : String)
    (style : Record) : Report Element :=
  match presentation, node with
  | .container primitive, .container _ props _ children =>
      (renderAll children).map fun elements =>
        { primitive, key, style, props, children := elements }
  | .text, .leaf _ props _ payload => presentText key style props payload
  | .image, .leaf _ props _ payload => renderer.presentImage key style props payload
  | .button, .leaf _ props _ payload => renderer.presentButton key style props payload
  | .fallback, node => renderer.presentFallback node.type key style
  | _, _ => .fault .childlessContainer

instance : Presents Presentation where
  present renderer presentation renderAll node key style _ :=
    renderer.present presentation renderAll node key style

/-- The style of a component.  A type that is not registered has no base style,
even if the theme names it. -/
def styleOf (renderer : Renderer σ) (node : Node) : Record :=
  if renderer.catalogue.contains node.type then
    renderer.theme.resolve node.type node.style
  else mergeStyle [] node.style

/-! ## The walk -/

/-- Render a list of components in order, the first of them at `index` below a
path. -/
def renderEach (renderOne : Value → Path → Report Element) (path : Path) :
    Nat → List Value → Report (List Element)
  | _, [] => .result []
  | index, raw :: rest =>
      (renderOne raw (path ++ [(index : Int)])).andThen fun element =>
        (renderEach renderOne path (index + 1) rest).map fun elements =>
          element :: elements

/-- Render the component at a path, with so many levels left, its own included. -/
def visit [Strategy σ] [Presents σ] (renderer : Renderer σ) (levels : Nat) (raw : Value)
    (path : Path) : Report Element :=
  let node := Node.ofValue renderer.catalogue.isContainer raw
  let key := identityKey node.type path
  match node with
  | .malformed kind =>
      (flagged .malformedNode key (.valueKind kind)
        (renderer.notice key (malformedText kind) .malformedNode)).counted
  | node =>
      match levels with
      | 0 =>
          ((flagged .depthExceeded key .none
            (renderer.notice key tooDeepText .depthExceeded)).reporting
              (.depthExceeded key renderer.maxDepth)).counted
      | levels + 1 =>
          (Presents.present renderer (renderer.catalogue.presentation node.type)
            (renderEach (visit renderer levels) path 0) node key (renderer.styleOf node)
            path).counted

/-- The number of levels left for a component at a path. -/
def levelsAt (renderer : Renderer σ) (path : Path) : Nat :=
  renderer.maxDepth + 1 - path.length

variable [Strategy σ] [Presents σ]

/-- Render one component at a path. -/
def render (renderer : Renderer σ) (raw : Value) (path : Path) : Report Element :=
  renderer.visit (renderer.levelsAt path) raw path

/-- Render components below a path. -/
def renderChildren (renderer : Renderer σ) (raws : List Value) (path : Path) :
    Report (List Element) :=
  renderEach (renderer.visit (renderer.maxDepth - path.length)) path 0 raws

/-! ## Pages -/

/-- The key of a page. -/
def pageKey : String := "page"

/-- A page that is a placeholder as a whole. -/
def pageNotice (renderer : Renderer σ) (containerStyle textStyle text : String)
    (defect : Defect) : Report Element :=
  flagged defect pageKey .none
    { primitive := Primitive.view
      key := pageKey
      style := renderer.theme.base containerStyle
      children :=
        [{ primitive := Primitive.text
           key := pageKey ++ "/message"
           style := renderer.theme.base textStyle
           text := some text }]
      placeholder := some defect }

/-- Report an event behind the others, unless there was a fault. -/
def concluding {α : Type} (report : Report α) (event : Event) : Report α :=
  report.andThen fun value => (Report.result value).reporting event

/-- The page in place of a missing one. -/
def renderMissing (renderer : Renderer σ) : Report Element :=
  concluding
    (renderer.pageNotice "errorContainer" "errorText" missingText .configurationMissing)
    (.renderPlaceholder .configurationMissing)

/-- The page in place of one without components. -/
def renderEmpty (renderer : Renderer σ) : Report Element :=
  concluding
    (renderer.pageNotice "emptyContainer" "emptyText" emptyText .configurationEmpty)
    (.renderPlaceholder .configurationEmpty)

/-- A page around rendered components. -/
def pageElement (renderer : Renderer σ) (children : List Element) : Element :=
  { primitive := Primitive.view
    key := pageKey
    style := renderer.theme.base "page"
    children }

/-- A page of components; one without any is a placeholder. -/
def renderComponents (renderer : Renderer σ) (components : List Value) :
    Report Element :=
  match components with
  | [] => renderer.renderEmpty
  | components =>
      let body := renderer.renderChildren components []
      concluding (body.map renderer.pageElement)
        (.renderComplete body.visited body.placeholderCount)

/-- Render the page that a descriptor describes.  Components that are not a list
are reported and count as none. -/
def renderDescriptor (renderer : Renderer σ) : Descriptor → Report Element
  | .missing => renderer.renderMissing
  | .list components => renderer.renderComponents components
  | .object fields =>
      match Table.get? fields "components" with
      | none | some .null => renderer.renderEmpty
      | some (.array components) => renderer.renderComponents components
      | some other => renderer.renderEmpty.reporting (.invalidComponents other.kindName)

/-- Render the page that data describes, if it describes one. -/
def renderPage (renderer : Renderer σ) (value : Value) :
    Except DescriptorError (Report Element) :=
  (Descriptor.ofValue? value).map renderer.renderDescriptor

end Renderer

end PageTree
