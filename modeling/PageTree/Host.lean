import PageTree.Event

/-!
# Host capabilities

A page can only ask its host to act; the host decides by the capabilities it
hands over.  Each capability serves one kind of action and is called with the
target of the action.  An action without a kind or a target, or of a kind that
the host does not serve, has no effect.

What a capability does is beyond this library: it is known by its name and by
whether it accepts calls or fails.  `Host.request` says what becomes of an
action, and the `Outcome` tells the calls made and the events reported.
-/

namespace PageTree

/-- A capability of the host. -/
structure Capability where
  name : String
  /-- Whether every call fails. -/
  fails : Bool
  deriving DecidableEq, Repr

/-- One call of a capability. -/
structure Call where
  capability : String
  target : String
  deriving DecidableEq, Repr

/-- The capabilities by the kind of action they serve.  A kind may be known to
the host and still be without a capability. -/
structure Host where
  capabilities : Table (Option Capability)
  deriving Repr

/-- What becomes of an action. -/
inductive Outcome where
  | ignored (kind target : Option String) (reason : IgnoreReason)
  | delivered (kind : String) (call : Call) (fails : Bool)
  deriving DecidableEq, Repr

/-- The host gives two capabilities for navigation. -/
structure HostConflict where
  deriving DecidableEq, Repr

/-- The wording of the error. -/
def HostConflict.message (_ : HostConflict) : String :=
  "navigate handler given both as on_action and in handlers"

namespace Host

/-- The kind of action that every page knows. -/
def navigate : String := "navigate"

/-- A host without capabilities. -/
def none : Host := ⟨[]⟩

/-- A host from the capability for navigation and those for kinds by name, which
may serve navigation only if the former is absent. -/
def make? (onNavigate : Option Capability) (others : Table (Option Capability)) :
    Except HostConflict Host :=
  match onNavigate with
  | .none => .ok ⟨others⟩
  | some capability =>
      if others.contains navigate then .error ⟨⟩
      else .ok ⟨Table.insert others navigate (some capability)⟩

/-- The kinds of action the host knows, in the order of their characters. -/
def kinds (host : Host) : List String :=
  host.capabilities.names.mergeSort fun left right => !decide (right < left)

/-- The capability for a kind of action. -/
def serving? (host : Host) (kind : String) : Option Capability :=
  (host.capabilities.get? kind).join

/-- Text that is neither absent nor empty. -/
def given? : Option String → Option String
  | some "" => .none
  | other => other

/-- Ask the host to act. -/
def request (host : Host) (kind target : Option String) : Outcome :=
  match given? kind, given? target with
  | some givenKind, some givenTarget =>
      match host.serving? givenKind with
      | some capability =>
          .delivered givenKind ⟨capability.name, givenTarget⟩ capability.fails
      | .none => .ignored kind target .unhandled
  | _, _ => .ignored kind target .incomplete

end Host

namespace Outcome

/-- The calls made: one if the action was delivered. -/
def calls : Outcome → List Call
  | ignored .. => []
  | delivered _ call _ => [call]

/-- What is reported. -/
def events : Outcome → List Event
  | ignored kind target reason => [.actionIgnored kind target reason]
  | delivered kind call _ => [.actionTriggered kind call.target]

/-- The call that failed, if one did. -/
def failure? : Outcome → Option Call
  | delivered _ call true => some call
  | _ => none

/-- Whether a capability was called. -/
def wasDelivered : Outcome → Bool
  | delivered .. => true
  | ignored .. => false

end Outcome

/-- The wording of the failure of a call. -/
def Call.failureMessage (call : Call) : String :=
  "host failed: " ++ call.capability

/-- An action bound to the host that will serve it. -/
structure Trigger where
  host : Host
  kind : Option String
  target : Option String
  deriving Repr

namespace Trigger

/-- Ask the host to perform the bound action. -/
def fire (trigger : Trigger) : Outcome :=
  trigger.host.request trigger.kind trigger.target

/-- Two triggers of one host are equal when they are bound to the same action. -/
def sameAction (left right : Trigger) : Bool :=
  left.kind == right.kind && left.target == right.target

end Trigger

end PageTree
