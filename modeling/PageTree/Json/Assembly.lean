import PageTree.Json.Token

/-!
# Assembling values from tokens

The tokens of a text are assembled into a value by a machine that holds the open
arrays and objects, innermost first.  After each token its `State` says what may
come next; `step?` refuses every other token.  A text denotes the value that is
complete when the tokens end (`assemble?`).

A repeated field name keeps its first place in the object and takes the last
value.
-/

namespace PageTree.Json

/-- An array or object that is still open.  The items of an array stand newest
first; a member waits for the value of its field. -/
inductive Frame where
  | array (items : List Value)
  | member (fields : Record) (name : String)
  deriving Inhabited, Repr

/-- What has been assembled, and what may come next. -/
inductive State where
  /-- A value; also the end of the innermost array if it has just been opened. -/
  | value (justOpened : Bool) (frames : List Frame)
  /-- A comma or the end of the array with these items, newest first. -/
  | afterItem (items : List Value) (frames : List Frame)
  /-- A field name; also the end of the object if it has just been opened. -/
  | name (justOpened : Bool) (fields : Record) (frames : List Frame)
  /-- The colon behind a field name. -/
  | colon (fields : Record) (name : String) (frames : List Frame)
  /-- A comma or the end of the object. -/
  | afterMember (fields : Record) (frames : List Frame)
  /-- Nothing more: the text is complete. -/
  | done (result : Value)
  deriving Inhabited, Repr

/-- Put a complete value where the innermost open frame waits for it. -/
def give (value : Value) : List Frame → State
  | [] => .done value
  | .array items :: rest => .afterItem (value :: items) rest
  | .member fields name :: rest => .afterMember (Table.insert fields name value) rest

/-- Take one token. -/
def step? : State → Token → Option State
  | .value _ frames, .openArray => some (.value true (.array [] :: frames))
  | .value _ frames, .openObject => some (.name true [] frames)
  | .value _ frames, .atom value => some (give value frames)
  | .value true (.array items :: frames), .closeArray =>
      some (give (.array items.reverse) frames)
  | .afterItem items frames, .comma => some (.value false (.array items :: frames))
  | .afterItem items frames, .closeArray => some (give (.array items.reverse) frames)
  | .name _ fields frames, .atom (.string name) => some (.colon fields name frames)
  | .name true fields frames, .closeObject => some (give (.object fields) frames)
  | .colon fields name frames, .colon =>
      some (.value false (.member fields name :: frames))
  | .afterMember fields frames, .comma => some (.name false fields frames)
  | .afterMember fields frames, .closeObject => some (give (.object fields) frames)
  | _, _ => none

/-- The value, if it is complete. -/
def State.complete? : State → Option Value
  | .done result => some result
  | _ => none

/-- Where every text begins: a value must come. -/
def State.initial : State := .value false []

/-- The value of a list of tokens. -/
def assemble? (tokens : List Token) : Option Value :=
  (tokens.foldlM step? State.initial).bind State.complete?

/-- The value that a text denotes, if it is a text of the strict format. -/
def read? (text : List Char) : Option Value :=
  (tokens? .strict text).bind assemble?

@[simp] theorem give_nil (value : Value) : give value [] = .done value := rfl

@[simp] theorem give_array (value : Value) (items : List Value) (rest : List Frame) :
    give value (.array items :: rest) = .afterItem (value :: items) rest := rfl

@[simp] theorem give_member (value : Value) (fields : Record) (name : String)
    (rest : List Frame) :
    give value (.member fields name :: rest) =
      .afterMember (Table.insert fields name value) rest := rfl

end PageTree.Json
