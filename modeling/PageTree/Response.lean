import PageTree.Renderer
import PageTree.Log.Context

/-!
# Responses

A host asks for a page by a descriptor, given as text or as data, and gets a
response: the written tree, or the reason for the refusal.  While the page is
rendered, the log context binds the page's own name; afterwards the context is
as it was.
-/

namespace PageTree

/-- The answer to a request for a page. -/
structure Response where
  success : Bool
  /-- The written tree, empty if the request was refused. -/
  treeJson : String := ""
  /-- The reason of a refusal. -/
  error : String := ""
  pageId : Option String := none
  deriving DecidableEq, Repr

/-- A response or the fault that prevented it, what was logged, and the log
context afterwards. -/
structure Exchange where
  outcome : Except RenderFault Response
  entries : List LogEntry
  context : LogContext

namespace Response

/-- The response to what does not describe a page. -/
def refusal (reason : DescriptorError) : Response :=
  { success := false, error := "Validation error: " ++ reason.message }

/-- The response that carries a rendered page. -/
def ofTree (tree : Element) (pageId : Option String) : Response :=
  { success := true, treeJson := tree.dump 0, pageId }

/-- The log context while a page is rendered. -/
def pageScope (descriptor : Descriptor) : LogScope :=
  ⟨[("page_id", Value.ofString? descriptor.pageId?)], []⟩

/-- What is logged when a response is complete. -/
def completion (response : Response) : Event :=
  .complete response.treeJson.length

/-- Render a page inside its log context. -/
def ofDescriptor (renderer : Renderer) (context : LogContext)
    (descriptor : Descriptor) : Exchange :=
  let (scope, inner) := (pageScope descriptor).enter context
  let report := renderer.renderDescriptor descriptor
  let after := (scope.leave inner).2
  match report.outcome with
  | .ok tree =>
      let response := ofTree tree descriptor.pageId?
      ⟨.ok response, logIn inner (report.events ++ [response.completion]), after⟩
  | .error fault => ⟨.error fault, logIn inner report.events, after⟩

/-- Respond to data. -/
def ofValue (renderer : Renderer) (context : LogContext) (value : Value) : Exchange :=
  match Descriptor.ofValue? value with
  | .ok descriptor => ofDescriptor renderer context descriptor
  | .error reason =>
      ⟨.ok (refusal reason),
        logIn context [.validation reason.message (some value.kindName)], context⟩

/-- Respond to text, read as the settings say. -/
def ofText (mend : Mender) (renderer : Renderer) (settings : Settings)
    (context : LogContext) (text : String) : Exchange :=
  match Descriptor.load mend settings text with
  | (_, .ok descriptor) => ofDescriptor renderer context descriptor
  | (events, .error reason) =>
      ⟨.ok (refusal reason),
        logIn context (events ++ [.validation reason.message none]), context⟩

end Response

end PageTree
