import PageTree.Json.Document

/-!
# Repairing JSON texts

A text that is not of the strict format may be of the extended dialect.  Otherwise
it is read in the loose one and mended on the way: brackets that are open at its
end are closed there, and commas in places where none belongs are passed over.
The text as a whole must still be an array or an object.

Mending trusts what it reads less than strict reading does.  An item that is empty
belongs to its array only if a comma or a square bracket follows it directly.  An
array or object that is opened and not directly closed must have an item or a
member, so brackets that close it before are passed over; if an object never gets
a member, it was an empty array.  A comma that stands apart from the member in
front of it announces another member.  Inside arrays, a field name that repeats
begins a new object.  Blanks at the end of a literal that end with a line feed are
dropped.  The escapes of a slash and of a form feed stand for themselves.

What cannot be mended by these rules is refused.  They are one `Mender` among others:
nothing in the library depends on them.
-/

namespace PageTree.Json

/-- A token and the character directly behind it. -/
structure Piece where
  token : Token
  next : Option Char
  deriving Inhabited, Repr

/-- A text without the blanks at its end, if the last of them is a line feed. -/
def trimLastLine (text : String) : String :=
  if text.toList.getLast? = some '\n' then String.ofList (Text.trimEnd text.toList)
  else text

/-- A token with its literal trimmed. -/
def Token.trimmed : Token → Token
  | .atom (.string text) => .atom (.string (trimLastLine text))
  | token => token

/-- A text in which the escapes of a slash and of a form feed denote themselves. -/
def guardEscapes : List Char → List Char
  | '\\' :: char :: rest =>
      if char = '/' ∨ char = 'f' then '\\' :: '\\' :: char :: guardEscapes rest
      else '\\' :: char :: guardEscapes rest
  | char :: rest => char :: guardEscapes rest
  | [] => []

/-- The pieces of a whole text. -/
def pieces? (input : List Char) : Option (List Piece) :=
  match input with
  | [] => some []
  | char :: rest =>
      if isSpace char then pieces? rest
      else
        match _taken : takeToken? .loose (char :: rest) with
        | none => none
        | some (token, rest) =>
            match pieces? rest with
            | some others => some (⟨token.trimmed, rest.head?⟩ :: others)
            | none => none
termination_by input.length
decreasing_by
  · simp
  · exact takeToken?_shorter _taken

/-- What has been mended, and what is looked for next.  The innermost array or
object that is open stands apart from the frames around it. -/
inductive Mending where
  /-- An item, or the end of the array if it may end. -/
  | atItem (mayEnd : Bool) (items : List Value) (frames : List Frame)
  /-- A field name, or the end of the object if it may end. -/
  | atName (mayEnd : Bool) (fields : Record) (frames : List Frame)
  /-- The first field name of an object that seemed to end before it. -/
  | atFirstName (frames : List Frame)
  /-- The colon behind a field name. -/
  | atColon (fields : Record) (name : String) (frames : List Frame)
  /-- The value of a field. -/
  | atValue (fields : Record) (name : String) (frames : List Frame)
  /-- What follows a member; `certain` says whether it is a comma. -/
  | behindMember (certain : Bool) (fields : Record) (frames : List Frame)
  /-- Nothing more: the text is complete. -/
  | done (result : Value)
  deriving Inhabited, Repr

/-- Values without content. -/
def isHollow : Value → Bool
  | .string text => text.isEmpty
  | .array items => items.isEmpty
  | .object fields => fields.isEmpty
  | _ => false

/-- Whether the end of a value that ends with this piece is marked: by a comma or
the end of an array. -/
def Piece.endsItem (piece : Piece) : Bool :=
  piece.next == some ',' || piece.next == some ']'

namespace Mending

/-- Put a complete value where the innermost open frame waits for it; `certain`
says whether its end is marked. -/
def give (certain : Bool) (value : Value) : List Frame → Mending
  | [] => .done value
  | .array items :: rest =>
      if certain || !isHollow value then .atItem true (value :: items) rest
      else .atItem true items rest
  | .member fields name :: rest =>
      .behindMember certain (Table.insert fields name value) rest

/-- Begin a value with a piece. -/
def begin? (piece : Piece) (frames : List Frame) : Option Mending :=
  match piece.token with
  | .openArray => some (.atItem (piece.next == some ']') [] frames)
  | .openObject => some (.atName (piece.next == some '\x7d') [] frames)
  | .atom value => some (give piece.endsItem value frames)
  | _ => none

/-- Begin a text: with an array or an object. -/
def start? (piece : Piece) : Option Mending :=
  match piece.token with
  | .openArray | .openObject => begin? piece []
  | _ => none

/-- Whether some frame is an array. -/
def inArray (frames : List Frame) : Bool :=
  frames.any fun
    | .array _ => true
    | .member _ _ => false

/-- Take a field name.  Inside an array, a name that the object already has ends
the object; if the object is an item, the name begins the next one, and otherwise
it is a name of the object around it. -/
def takeName (fields : Record) (name : String) : List Frame → Mending
  | [] => .atColon fields name []
  | .array items :: rest =>
      if Table.contains fields name then
        .atColon [] name (.array (.object fields :: items) :: rest)
      else .atColon fields name (.array items :: rest)
  | .member outer outerName :: rest =>
      if Table.contains fields name && inArray rest then
        takeName (Table.insert outer outerName (.object fields)) name rest
      else .atColon fields name (.member outer outerName :: rest)

/-- Take a piece where an item or the end of an array is looked for. -/
def stepItem? (piece : Piece) (mayEnd : Bool) (items : List Value)
    (frames : List Frame) : Option Mending :=
  match piece.token with
  | .closeArray | .closeObject =>
      if mayEnd then some (give piece.endsItem (.array items.reverse) frames)
      else some (.atItem false items frames)
  | .comma => some (.atItem mayEnd items frames)
  | .colon => some (.atItem false items frames)
  | _ => begin? piece (.array items :: frames)

/-- Take a piece where a field name or the end of an object is looked for. -/
def stepName? (piece : Piece) (mayEnd : Bool) (fields : Record)
    (frames : List Frame) : Option Mending :=
  match piece.token with
  | .atom (.string name) => some (takeName fields name frames)
  | .atom _ => none
  | .closeObject =>
      if mayEnd then some (give piece.endsItem (.object fields) frames)
      else if fields.isEmpty then some (.atFirstName frames)
      else some (.atName false fields frames)
  | _ => some (.atName false fields frames)

/-- Take a piece where the first name of an object is looked for. -/
def stepFirstName? (piece : Piece) (frames : List Frame) : Option Mending :=
  match piece.token with
  | .atom (.string name) => some (takeName [] name frames)
  | .atom _ => none
  | _ => some (.atFirstName frames)

/-- Take a piece behind a member. -/
def stepBehindMember? (piece : Piece) (certain : Bool) (fields : Record)
    (frames : List Frame) : Option Mending :=
  match piece.token with
  | .comma => some (.atName certain fields frames)
  | .closeObject => some (give piece.endsItem (.object fields) frames)
  | .atom (.string name) => some (takeName fields name frames)
  | _ => none

/-- Take one piece. -/
def step? (state : Mending) (piece : Piece) : Option Mending :=
  match state with
  | .atItem mayEnd items frames => stepItem? piece mayEnd items frames
  | .atName mayEnd fields frames => stepName? piece mayEnd fields frames
  | .atFirstName frames => stepFirstName? piece frames
  | .atColon fields name frames =>
      match piece.token with
      | .colon => some (.atValue fields name frames)
      | _ => none
  | .atValue fields name frames => begin? piece (.member fields name :: frames)
  | .behindMember certain fields frames => stepBehindMember? piece certain fields frames
  | .done _ => none

/-- The value of a frame that a value completes at the end of the text. -/
def enclose (value : Value) : Frame → Value
  | .array items => .array (if isHollow value then items else value :: items).reverse
  | .member fields name => .object (Table.insert fields name value)

/-- The value at the end of the text, with all open brackets closed. -/
def complete? : Mending → Option Value
  | .atItem _ items frames => some (frames.foldl enclose (.array items.reverse))
  | .atName _ fields frames | .behindMember _ fields frames =>
      some (frames.foldl enclose (.object fields))
  | .atFirstName frames => some (frames.foldl enclose (.array []))
  | .done result => some result
  | .atColon _ _ _ | .atValue _ _ _ => none

end Mending

/-- The value that a text denotes when it is mended. -/
def mend? (text : List Char) : Option Value :=
  match pieces? (guardEscapes text) with
  | some (first :: rest) =>
      ((Mending.start? first).bind fun state => rest.foldlM Mending.step? state).bind
        Mending.complete?
  | _ => none

/-- The value that a text denotes in the extended dialect, or else mended. -/
def readRepaired? : Mender := fun text =>
  match (tokens? .extended text).bind assemble? with
  | some value => some value
  | none => mend? text

example : Document.read readRepaired? "[1,]" true matches .ok (.array [.int 1]) := by
  decide +kernel
example : Document.read readRepaired? "[1,]" false matches .error .invalid := by decide +kernel
example : Document.read readRepaired? "[-Infinity, 1e999]" true matches
    .ok (.array [.float (.infinite true), .float (.infinite false)]) := by
  decide +kernel
example : Document.read readRepaired? "[['a', 1e999," true matches
    .ok (.array [.array [.string "a", .float (.infinite false)]]) := by
  decide +kernel
example : Document.read readRepaired? "[\"\",[\"\"" true matches .ok (.array [.string ""]) := by
  decide +kernel
example : Document.read readRepaired? "'a'" true matches .error .irreparable := by
  decide +kernel

end PageTree.Json
