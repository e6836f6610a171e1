import PageTree.Response
import PageTree.Theme.File

/-!
# Sessions

A session is the library as a host uses it over time: settings, a theme, a
catalogue that can grow, the host's capabilities, the page last rendered and the
calls made so far.

A theme that cannot be loaded, or a conflict between the host's capabilities,
fails every step that needs it and no other step.  A step that fails leaves the
page and the catalogue as they were; a page keeps its triggers whatever is
registered later.
-/

namespace PageTree

/-- Why a step of a session fails. -/
inductive SessionError where
  | theme (reason : ThemeError)
  | host (reason : HostConflict)
  | descriptor (reason : DescriptorError)
  | fault (reason : RenderFault)
  | registration (reason : AlreadyRegistered)
  | call (failed : Call)
  deriving DecidableEq, Repr

/-- The library in use. -/
structure Session where
  settings : Settings
  mend : Mender
  theme : Except ThemeError Theme
  host : Except HostConflict Host
  catalogue : Catalogue := Catalogue.standard
  /-- The page last rendered as a tree. -/
  page : Option Element := none
  /-- The calls of the host's capabilities, in order. -/
  calls : List Call := []

/-- What a press did. -/
inductive PressResult where
  /-- The page has no element with the key. -/
  | notFound
  /-- The element was pressed; it may or may not have a trigger. -/
  | pressed (bound : Bool)
  deriving DecidableEq, Repr

namespace Session

/-- A session with settings, a way to mend texts, and capabilities.  `file` is what
stands at the path of the settings' theme. -/
def start (settings : Settings) (mend : Mender) (host : Except HostConflict Host)
    (file : ThemeFile) : Session :=
  { settings
    mend
    host
    theme :=
      match Host.given? settings.themePath with
      | some path => (file.load path true).2
      | none => .ok Theme.standard }

/-- The theme, if it can be loaded. -/
def theme? (session : Session) : Except SessionError Theme :=
  session.theme.mapError .theme

/-- The host's capabilities, unless they are in conflict. -/
def host? (session : Session) : Except SessionError Host :=
  session.host.mapError .host

/-- The renderer with the session's present catalogue. -/
def renderer? (session : Session) : Except SessionError Renderer :=
  match session.theme?, session.host? with
  | .error reason, _ => .error reason
  | .ok _, .error reason => .error reason
  | .ok theme, .ok host =>
      .ok ⟨theme, session.catalogue, host, session.settings.maxDepth,
        session.settings.maxDepth_pos⟩

/-- The tree of a page. -/
def tree? (session : Session) (value : Value) : Except SessionError Element :=
  match session.renderer? with
  | .error reason => .error reason
  | .ok renderer =>
      match renderer.renderPage value with
      | .error reason => .error (.descriptor reason)
      | .ok report => report.outcome.mapError .fault

/-- Render a page and make it the session's page. -/
def renderTree (session : Session) (value : Value) :
    Session × Except SessionError Element :=
  match session.tree? value with
  | .ok tree => ({ session with page := some tree }, .ok tree)
  | .error reason => (session, .error reason)

/-- Respond to a descriptor given as text. -/
def respondToText (session : Session) (text : String) : Except SessionError Response :=
  match session.renderer? with
  | .error reason => .error reason
  | .ok renderer =>
      (Response.ofText session.mend renderer session.settings [] text).outcome.mapError .fault

/-- Respond to a descriptor given as data. -/
def respondToValue (session : Session) (value : Value) :
    Except SessionError Response :=
  match session.renderer? with
  | .error reason => .error reason
  | .ok renderer => (Response.ofValue renderer [] value).outcome.mapError .fault

/-- The keys of the session's page. -/
def keys (session : Session) : List String :=
  match session.page with
  | some page => page.keys
  | none => []

/-- An element of the session's page. -/
def find? (session : Session) (key : String) : Option Element :=
  session.page.bind fun page => page.find? key

/-- Keep the calls of an outcome. -/
def recording (session : Session) (outcome : Outcome) : Session :=
  { session with calls := session.calls ++ outcome.calls }

/-- Press an element of the session's page. -/
def press (session : Session) (key : String) :
    Session × Except SessionError PressResult :=
  match session.find? key with
  | none => (session, .ok .notFound)
  | some element =>
      match element.press with
      | none => (session, .ok (.pressed false))
      | some outcome =>
          (session.recording outcome,
            match outcome.failure? with
            | some call => .error (.call call)
            | none => .ok (.pressed true))

/-- Ask the host to act, and say whether it did. -/
def trigger (session : Session) (kind target : Option String) :
    Session × Except SessionError Bool :=
  match session.host? with
  | .error reason => (session, .error reason)
  | .ok host =>
      let outcome := host.request kind target
      (session.recording outcome,
        match outcome.failure? with
        | some call => .error (.call call)
        | none => .ok outcome.wasDelivered)

/-- Register a presentation for later renderings. -/
def register (session : Session) (tag : String) (presentation : Presentation)
    (replace : Bool) : Session × Except SessionError (List String) :=
  match session.catalogue.register tag presentation replace with
  | .ok catalogue => ({ session with catalogue }, .ok catalogue.tags)
  | .error reason => (session, .error (.registration reason))

end Session

end PageTree
