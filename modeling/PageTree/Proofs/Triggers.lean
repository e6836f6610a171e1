import PageTree.Proofs.Elements
import PageTree.Proofs.Tables

/-!
# Triggers and declared actions

An element that can be pressed carries its action twice: as data, which the text of the
tree shows, and as a live trigger, which the data does not show.  In a rendered tree the
two exist together and agree (`Renderer.invariant_boundTo`), so what a press does can be
read off the data of the element.

`Host.asked?` reads it: the kind and the target of the action, both given, and a
capability for that kind.  `Element.BoundTo.calls_press` and
`Element.BoundTo.failure?_press` say that a press does this and no more.
-/

namespace PageTree

namespace Host

/-- The call that an action leads to, and whether it fails. -/
def answer? (host : Host) (kind target : Option String) : Option (Call × Bool) := do
  let givenKind ← given? kind
  let givenTarget ← given? target
  let capability ← host.serving? givenKind
  return (⟨capability.name, givenTarget⟩, capability.fails)

/-- The call that the data of an element asks for, and whether it fails. -/
def asked? (host : Host) (data : Value) : Option (Call × Bool) :=
  host.answer? (text? "kind") (text? "target")
where
  /-- A field of the action, if it is text. -/
  text? (name : String) : Option String :=
    ((data.field? "action").bind fun action => action.field? name).bind Value.string?

theorem given?_eq_some_iff {text? : Option String} {text : String} :
    given? text? = some text ↔ text? = some text ∧ text ≠ "" := by
  unfold given?
  split
  · constructor
    · nofun
    · rintro ⟨⟨rfl⟩, nonempty⟩
      exact absurd rfl nonempty
  next notEmpty =>
    constructor
    · rintro rfl
      exact ⟨rfl, fun empty => notEmpty (congrArg some empty)⟩
    · exact And.left

/-- What the data must hold to ask for a call: an action whose kind and target are texts,
both not empty, and the kind one that a capability serves. -/
theorem asked?_eq_some_iff {host : Host} {data : Value} {call : Call} {fails : Bool} :
    host.asked? data = some (call, fails) ↔
      ∃ action kind, data.field? "action" = some action ∧
        action.field? "kind" = some (.string kind) ∧ kind ≠ "" ∧
        action.field? "target" = some (.string call.target) ∧ call.target ≠ "" ∧
        host.serving? kind = some ⟨call.capability, fails⟩ := by
  have isText : ∀ {value : Value} {text : String},
      value.string? = some text ↔ value = .string text := by
    intro value text
    cases value <;> simp [Value.string?]
  obtain ⟨name, target⟩ := call
  simp only [asked?, asked?.text?, answer?, Option.bind_eq_bind, Option.bind_eq_some_iff,
    given?_eq_some_iff, isText]
  constructor
  · rintro ⟨kind, ⟨⟨_, ⟨action, found, kindAt⟩, rfl⟩, givenKind⟩, _,
      ⟨⟨_, ⟨other, otherFound, targetAt⟩, rfl⟩, givenTarget⟩, _, serving, ⟨rfl⟩⟩
    obtain rfl : action = other := Option.some.inj (found.symm.trans otherFound)
    exact ⟨action, kind, found, kindAt, givenKind, targetAt, givenTarget, serving⟩
  · rintro ⟨action, kind, found, kindAt, givenKind, targetAt, givenTarget, serving⟩
    exact ⟨kind, ⟨⟨_, ⟨action, found, kindAt⟩, rfl⟩, givenKind⟩, target,
      ⟨⟨_, ⟨action, found, targetAt⟩, rfl⟩, givenTarget⟩, _, serving, rfl⟩

variable (host : Host) (kind target : Option String)

/-- A request is ignored or delivered, and the answer tells which. -/
theorem request_cases :
    (host.answer? kind target = .none ∧
        ∃ reason, host.request kind target = .ignored kind target reason) ∨
      ∃ givenKind call fails, host.answer? kind target = some (call, fails) ∧
        host.request kind target = .delivered givenKind call fails := by
  unfold request answer?
  cases given? kind with
  | none => exact .inl ⟨rfl, _, rfl⟩
  | some givenKind =>
      cases given? target with
      | none => exact .inl ⟨rfl, _, rfl⟩
      | some givenTarget =>
          cases served : host.serving? givenKind with
          | none => exact .inl ⟨by simp [served], _, by simp only [served]; rfl⟩
          | some capability =>
              exact .inr ⟨givenKind, ⟨capability.name, givenTarget⟩, capability.fails,
                by simp [served], by simp only [served]⟩

/-- A request makes the call that answers it. -/
theorem calls_request :
    (host.request kind target).calls = ((host.answer? kind target).map Prod.fst).toList := by
  rcases host.request_cases kind target with
    ⟨unanswered, reason, ignored⟩ | ⟨givenKind, call, fails, answered, delivered⟩
  · rw [unanswered, ignored]
    rfl
  · rw [answered, delivered]
    rfl

/-- A request fails when the call that answers it does. -/
theorem failure?_request :
    (host.request kind target).failure? =
      ((host.answer? kind target).filter Prod.snd).map Prod.fst := by
  rcases host.request_cases kind target with
    ⟨unanswered, reason, ignored⟩ | ⟨givenKind, call, fails, answered, delivered⟩
  · rw [unanswered, ignored]
    rfl
  · rw [answered, delivered]
    cases fails <;> rfl

end Host

/-! ## The data of an action -/

namespace Element

/-- An optional field is found under its own name only. -/
theorem get?_optionalField (name other : String) (value? : Option Value) :
    Table.get? (optionalField name value?) other = if name = other then value? else none := by
  cases value? with
  | none => simp [optionalField]
  | some value => simp [optionalField, Table.get?]

/-- The data of an element shows its action. -/
theorem field?_action_toValue (element : Element) :
    element.toValue.field? "action" = element.action.map actionValue := by
  cases element
  simp [toValue, Value.field?, Table.get?_append, get?_optionalField, Table.get?]

theorem field?_kind_actionValue (action : Action) :
    (actionValue action).field? "kind" = action.kind.map .string := by
  simp [actionValue, Value.field?, Table.get?_append, get?_optionalField]

theorem field?_target_actionValue (action : Action) :
    (actionValue action).field? "target" = action.target.map .string := by
  simp [actionValue, Value.field?, Table.get?_append, get?_optionalField]

/-- The data of an element asks for what its action leads to. -/
theorem asked?_toValue (host : Host) (element : Element) :
    host.asked? element.toValue =
      element.action.bind fun action => host.answer? action.kind action.target := by
  unfold Host.asked? Host.asked?.text?
  rw [field?_action_toValue]
  cases element.action with
  | none => rfl
  | some action =>
      have readBack : ∀ text? : Option String,
          (text?.map Value.string).bind Value.string? = text? := by
        rintro (_ | text) <;> rfl
      simp only [Option.map_some, Option.bind_some, field?_kind_actionValue,
        field?_target_actionValue, readBack]

/-! ## Presses -/

/-- The trigger of the element is its declared action, bound to the host. -/
def BoundTo (host : Host) (element : Element) : Prop :=
  element.onPress = element.action.map fun action => ⟨host, action.kind, action.target⟩

variable {host : Host} {element : Element}

theorem BoundTo.of_inert (actionless : element.action = none)
    (triggerless : element.onPress = none) : element.BoundTo host := by
  rw [BoundTo, actionless, triggerless]
  rfl

/-- A press asks the host for the declared action. -/
theorem BoundTo.press_eq (bound : element.BoundTo host) :
    element.press = element.action.map fun action => host.request action.kind action.target := by
  rw [press, bound, Option.map_map]
  rfl

/-- A press makes the call that the data of the element asks for, and no other. -/
theorem BoundTo.calls_press (bound : element.BoundTo host) :
    element.press.elim [] Outcome.calls =
      ((host.asked? element.toValue).map Prod.fst).toList := by
  rw [bound.press_eq, asked?_toValue]
  cases element.action with
  | none => rfl
  | some action => exact host.calls_request action.kind action.target

/-- The failure of that call, if it fails, is the failure of the press. -/
theorem BoundTo.failure?_press (bound : element.BoundTo host) :
    element.press.bind Outcome.failure? =
      ((host.asked? element.toValue).filter Prod.snd).map Prod.fst := by
  rw [bound.press_eq, asked?_toValue]
  cases element.action with
  | none => rfl
  | some action => exact host.failure?_request action.kind action.target

end Element

/-! ## Rendered trees -/

namespace Renderer

variable {renderer : Renderer} {page : Value} {element tree : Element}
variable {key : String} {props style payload : Record}

/-- Of the elements of a leaf only buttons declare actions, and their triggers agree. -/
theorem LeafElement.boundTo (leaf : renderer.LeafElement key style props payload element) :
    element.Throughout (Element.BoundTo renderer.host) := by
  cases leaf with
  | text | image | imagePlaceholder =>
      exact Element.Throughout.of_childless rfl (.of_inert rfl rfl)
  | button => exact Element.Throughout.of_labelled rfl rfl rfl (.of_inert rfl rfl)
  | fallback =>
      exact Element.Throughout.of_labelled rfl rfl (.of_inert rfl rfl) (.of_inert rfl rfl)

/-- Every element is bound to the host of the renderer, whatever the page. -/
theorem invariant_boundTo (renderer : Renderer) :
    renderer.Invariant (fun _ => True) (Element.BoundTo renderer.host) where
  inner _ _ _ _ := trivial
  notice _ _ _ := Element.Throughout.of_labelled rfl rfl (.of_inert rfl rfl) (.of_inert rfl rfl)
  leaf _ _ _ _ _ _ _ _ _ leaf := leaf.boundTo
  container _ _ _ _ _ := .of_inert rfl rfl
  page _ := .of_inert rfl rfl
  pageNotice _ _ _ _ _ yielded := by
    cases yielded
    exact Element.Throughout.of_labelled rfl rfl (.of_inert rfl rfl) (.of_inert rfl rfl)

theorem Renders.boundTo (rendered : renderer.Renders page tree) :
    tree.Throughout (Element.BoundTo renderer.host) :=
  (invariant_boundTo renderer).of_renders (fun _ _ => trivial) rendered

end Renderer

end PageTree
