import PageTree.Element

/-!
# The catalogue of component types

A catalogue says how the components of each type are presented.  Every type has a
presentation: the one registered for it, or the fallback of the catalogue.

A catalogue may hold strategies of any kind, as long as they say whether they present
children.  The built-in ones are `Presentation`.

Registering a type that is already present needs permission to replace it and
then keeps its place; a new type goes to the end.
-/

namespace PageTree

/-- A kind of strategies, which are ways to present components. -/
class Strategy (σ : Type) where
  /-- Whether children are presented. -/
  isContainer : σ → Bool

/-- The strategies that are built in. -/
inductive Presentation where
  /-- A primitive around the presented children. -/
  | container (primitive : String)
  /-- The field `content` as text. -/
  | text
  /-- The field `source` as an image. -/
  | image
  /-- A labelled area that can be pressed. -/
  | button
  /-- A placeholder that shows the type. -/
  | fallback
  deriving DecidableEq, Repr

/-- Whether children are presented. -/
def Presentation.isContainer : Presentation → Bool
  | container _ => true
  | _ => false

instance : Strategy Presentation where
  isContainer := Presentation.isContainer

@[simp] theorem Presentation.isContainer_strategy (presentation : Presentation) :
    Strategy.isContainer presentation = presentation.isContainer := rfl

/-- A type is registered already. -/
structure AlreadyRegistered where
  tag : String
  deriving DecidableEq, Repr

/-- The wording of the error. -/
def AlreadyRegistered.message (reason : AlreadyRegistered) : String :=
  "Component type already registered: " ++ reason.tag

/-- Strategies by component type. -/
structure Catalogue (σ : Type := Presentation) where
  presentations : Table σ
  fallback : σ
  deriving DecidableEq, Repr

namespace Catalogue

variable {σ : Type}

/-- The types that every page knows. -/
def builtIn : Table Presentation :=
  [("container", .container Primitive.view),
    ("scrollview", .container Primitive.scrollView),
    ("text", .text), ("image", .image), ("button", .button)]

/-- The catalogue of the built-in types. -/
def standard : Catalogue := ⟨builtIn, .fallback⟩

/-- The strategy for a type. -/
def presentation (catalogue : Catalogue σ) (tag : String) : σ :=
  (catalogue.presentations.get? tag).getD catalogue.fallback

/-- Whether components of a type hold children. -/
def isContainer [Strategy σ] (catalogue : Catalogue σ) (tag : String) : Bool :=
  Strategy.isContainer (catalogue.presentation tag)

/-- Whether a type is registered. -/
def contains (catalogue : Catalogue σ) (tag : String) : Bool :=
  catalogue.presentations.contains tag

/-- The registered types, in order. -/
def tags (catalogue : Catalogue σ) : List String :=
  catalogue.presentations.names

/-- Register a strategy for a type. -/
def register (catalogue : Catalogue σ) (tag : String) (strategy : σ) (replace : Bool) :
    Except AlreadyRegistered (Catalogue σ) :=
  if catalogue.contains tag && !replace then .error ⟨tag⟩
  else .ok ⟨Table.insert catalogue.presentations tag strategy, catalogue.fallback⟩

/-- The catalogue after a registration, which may have been refused. -/
def afterRegister (catalogue : Catalogue σ) (tag : String) (strategy : σ)
    (replace : Bool) : Catalogue σ :=
  match catalogue.register tag strategy replace with
  | .ok grown => grown
  | .error _ => catalogue

/-- What is reported of a successful registration. -/
def registered [Strategy σ] (tag : String) (strategy : σ) : Event :=
  .typeRegistered tag (Strategy.isContainer strategy)

end Catalogue

end PageTree
