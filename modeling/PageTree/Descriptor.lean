import PageTree.Settings
import PageTree.Event
import PageTree.Json.Document

/-!
# Page descriptors

A page is described by plain data: nothing at all, an object with a list of
components, or that list itself.  Other data describes no page.

A descriptor given as text must not exceed the permitted size, and is read with
or without repairs, as the settings say.  The repairs themselves are left to a
`Mender`.  Failing to read it is reported; reading
data that describes no page is not.
-/

namespace PageTree

/-- What describes a page. -/
inductive Descriptor where
  | missing
  | object (fields : Record)
  | list (components : List Value)
  deriving Inhabited, Repr

/-- Why something does not describe a page. -/
inductive DescriptorError where
  /-- Data of another kind. -/
  | wrongKind (kind : String)
  /-- A text that cannot be read. -/
  | undecodable (reason : DocumentError)
  deriving DecidableEq, Repr

/-- The wording of an error. -/
def DescriptorError.message : DescriptorError → String
  | wrongKind kind =>
      "Page descriptor must be an object or a list of components, got " ++ kind
  | undecodable reason => "Invalid page descriptor: " ++ reason.message

namespace Descriptor

/-- The descriptor that data stands for. -/
def ofValue? : Value → Except DescriptorError Descriptor
  | .null => .ok missing
  | .object fields => .ok (object fields)
  | .array components => .ok (list components)
  | other => .error (.wrongKind other.kindName)

/-- The data of a descriptor. -/
def toValue : Descriptor → Value
  | missing => .null
  | object fields => .object fields
  | list components => .array components

/-- The page's own name for itself, if it has one. -/
def pageId? : Descriptor → Option String
  | object fields => (Table.get? fields "id").bind Value.string?
  | _ => none

/-- The data in a text of permitted size. -/
def decode (mend : Mender) (settings : Settings) (text : String) :
    Except DocumentError Value :=
  match Document.checkSize text settings.maxDescriptorBytes "Page descriptor" with
  | .error reason => .error reason
  | .ok () => Document.read mend text settings.repairJson

/-- The descriptor in a text, and what is reported. -/
def load (mend : Mender) (settings : Settings) (text : String) :
    List Event × Except DescriptorError Descriptor :=
  match decode mend settings text with
  | .error reason =>
      ([.descriptorDecodeFailed reason.message], .error (.undecodable reason))
  | .ok value => ([], ofValue? value)

@[simp] theorem ofValue?_toValue (descriptor : Descriptor) :
    ofValue? descriptor.toValue = .ok descriptor := by
  cases descriptor <;> rfl

end Descriptor

end PageTree
