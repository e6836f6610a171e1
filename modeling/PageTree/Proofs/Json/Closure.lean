import PageTree.Proofs.Fences
import PageTree.Proofs.Json.Writable

/-!
# What is read can be written

Whatever a text of the strict format denotes is a writable value
(`Document.writable_of_read`), so it is read back from its own text.  The format allows for
texts that are never written: repeated field names, numbers in other spellings, integers of
any size.  But a number beyond the finite doubles is refused, and a repeated name replaces
the value of its field.

The proof follows the reader.  Every token of a text carries a writable value
(`isWritable_of_tokens?`), and no step of the machine that assembles them leaves that
domain (`State.IsWritable.step`).
-/

namespace PageTree

namespace Json

/-! ## Tokens -/

/-- A decimal is read as a finite double. -/
theorem isFinite_of_toBinary64? {negative : Bool} {decimal : Decimal} {number : Binary64}
    (read : decimal.toBinary64? negative = some number) : number.isFinite = true := by
  unfold Decimal.toBinary64? Binary64.ofRank? at read
  split at read
  · cases read
    rfl
  · cases read

/-- A number of the strict format is an integer or a finite double. -/
theorem writable_of_numberLiteral {literal : NumberLiteral} {value : Value}
    (denoted : literal.value? Dialect.strict.overflow = some value) : value.Writable := by
  unfold NumberLiteral.value? at denoted
  split at denoted
  · cases denoted
    exact ⟨trivial, trivial⟩
  · dsimp only at denoted
    split at denoted
    next number read =>
      cases denoted
      exact ⟨trivial, isFinite_of_toBinary64? read⟩
    next => cases denoted

/-- The words of the strict format stand for truth values and null. -/
theorem writable_of_mem_words {word : List Char} {value : Value}
    (member : (word, value) ∈ Dialect.strict.words) : value.Writable := by
  have listed : (word, value) ∈ Json.words := member
  simp only [Json.words, List.mem_cons, Prod.mk.injEq, List.not_mem_nil, or_false] at listed
  rcases listed with ⟨-, rfl⟩ | ⟨-, rfl⟩ | ⟨-, rfl⟩ <;> exact ⟨trivial, trivial⟩

/-- The value that a token carries, if it carries one, can be written. -/
def Token.IsWritable : Token → Prop
  | .atom value => value.Writable
  | _ => True

variable {token : Token} {tokens : List Token} {input rest : List Char}

theorem isWritable_of_takeStringAtom? {quote : Char}
    (taken : takeStringAtom? quote input = some (token, rest)) : token.IsWritable := by
  unfold takeStringAtom? at taken
  split at taken
  · cases taken
    exact Value.writable_string _
  · cases taken

theorem isWritable_of_takeAtom? (taken : takeAtom? .strict input = some (token, rest)) :
    token.IsWritable := by
  unfold takeAtom? at taken
  split at taken
  next found =>
    obtain ⟨word, member, -⟩ := takeWord?_eq found
    cases taken
    exact writable_of_mem_words member
  next =>
    unfold takeNumberAtom? at taken
    split at taken
    next => cases taken
    next =>
      split at taken
      next denoted =>
        cases taken
        exact writable_of_numberLiteral denoted
      next => cases taken

/-- A token of the strict format is writable. -/
theorem isWritable_of_takeToken? (taken : takeToken? .strict input = some (token, rest)) :
    token.IsWritable := by
  unfold takeToken? at taken
  split at taken
  · cases taken
  -- the brackets, the comma and the colon carry no value
  iterate 6
    split at taken
    · cases taken
      trivial
  split at taken
  · exact isWritable_of_takeStringAtom? taken
  split at taken
  · exact isWritable_of_takeStringAtom? taken
  · exact isWritable_of_takeAtom? taken

/-- So are all tokens of a text. -/
theorem isWritable_of_tokens? (read : tokens? .strict input = some tokens) :
    ∀ token ∈ tokens, token.IsWritable := by
  fun_induction tokens? .strict input generalizing tokens with
  | case1 =>
      cases read
      exact List.forall_mem_nil _
  | case2 char input space ih => exact ih read
  | case3 => cases read
  | case4 char input noSpace first rest taken others othersRead ih =>
      cases read
      exact List.forall_mem_cons.2 ⟨isWritable_of_takeToken? taken, ih othersRead⟩
  | case5 => cases read

/-! ## The machine -/

/-- What an open array or object holds can be written. -/
def Frame.IsWritable : Frame → Prop
  | .array items => (Value.array items).Writable
  | .member fields _ => (Value.object fields).Writable

/-- Everything that has been assembled can be written. -/
def State.IsWritable : State → Prop
  | .value _ frames => ∀ frame ∈ frames, frame.IsWritable
  | .afterItem items frames =>
      (Value.array items).Writable ∧ ∀ frame ∈ frames, frame.IsWritable
  | .name _ fields frames | .colon fields _ frames | .afterMember fields frames =>
      (Value.object fields).Writable ∧ ∀ frame ∈ frames, frame.IsWritable
  | .done result => result.Writable

variable {value : Value} {items : List Value} {fields : Record} {frames : List Frame}
variable {before after : State}

theorem writable_array_cons (first : value.Writable) (others : (Value.array items).Writable) :
    (Value.array (value :: items)).Writable := by
  rw [Value.writable_array_iff] at others ⊢
  exact List.forall_mem_cons.2 ⟨first, others⟩

theorem writable_array_reverse (writable : (Value.array items).Writable) :
    (Value.array items.reverse).Writable := by
  rw [Value.writable_array_iff] at writable ⊢
  intro item member
  exact writable item (List.mem_reverse.1 member)

/-- Whether its name is new or repeated, a writable field leaves an object writable. -/
theorem writable_object_insert (name : String) (written : value.Writable)
    (writable : (Value.object fields).Writable) :
    (Value.object (Table.insert fields name value)).Writable := by
  rw [Value.writable_object_iff] at writable ⊢
  obtain ⟨distinct, each⟩ := writable
  refine ⟨distinct.insert name value, ?_⟩
  intro field member
  rcases Table.mem_insert member with rfl | earlier
  · exact written
  · exact each field earlier

/-- A writable value is put into a writable frame. -/
theorem isWritable_give (written : value.Writable)
    (enclosing : ∀ frame ∈ frames, frame.IsWritable) : (give value frames).IsWritable := by
  cases frames with
  | nil => exact written
  | cons frame frames =>
      obtain ⟨inner, outer⟩ := List.forall_mem_cons.1 enclosing
      cases frame with
      | array items => exact ⟨writable_array_cons written inner, outer⟩
      | member fields name => exact ⟨writable_object_insert name written inner, outer⟩

/-- Taking a writable token leaves everything writable. -/
theorem State.IsWritable.step (writable : before.IsWritable) (carried : token.IsWritable)
    (taken : step? before token = some after) : after.IsWritable := by
  have emptyArray : (Value.array []).Writable := ⟨trivial, trivial⟩
  have emptyObject : (Value.object []).Writable := ⟨⟨List.nodup_nil, trivial⟩, trivial⟩
  unfold step? at taken
  split at taken <;> cases taken
  case h_1 => exact List.forall_mem_cons.2 ⟨emptyArray, writable⟩
  case h_2 => exact ⟨emptyObject, writable⟩
  case h_3 => exact isWritable_give carried writable
  case h_4 =>
    obtain ⟨inner, outer⟩ := List.forall_mem_cons.1 writable
    exact isWritable_give (writable_array_reverse inner) outer
  case h_5 => exact List.forall_mem_cons.2 writable
  case h_6 => exact isWritable_give (writable_array_reverse writable.1) writable.2
  case h_7 => exact writable
  case h_8 => exact isWritable_give writable.1 writable.2
  case h_9 => exact List.forall_mem_cons.2 writable
  case h_10 => exact writable
  case h_11 => exact isWritable_give writable.1 writable.2

/-- So does taking any number of them. -/
theorem State.IsWritable.run (writable : before.IsWritable)
    (carried : ∀ token ∈ tokens, token.IsWritable)
    (taken : tokens.foldlM step? before = some after) : after.IsWritable := by
  induction tokens generalizing before with
  | nil =>
      cases taken
      exact writable
  | cons token tokens ih =>
      obtain ⟨first, others⟩ := List.forall_mem_cons.1 carried
      rw [List.foldlM_cons] at taken
      obtain ⟨between, stepped, taken⟩ := Option.bind_eq_some_iff.1 taken
      exact ih (writable.step first stepped) others taken

/-- What a text of the strict format denotes can be written. -/
theorem writable_of_read? (read : read? input = some value) : value.Writable := by
  obtain ⟨tokens, tokenized, assembled⟩ := Option.bind_eq_some_iff.1 read
  obtain ⟨final, taken, complete⟩ := Option.bind_eq_some_iff.1 assembled
  have initial : State.initial.IsWritable := List.forall_mem_nil _
  have writable := initial.run (isWritable_of_tokens? tokenized) taken
  cases final with
  | done result =>
      cases complete
      exact writable
  | _ => cases complete

end Json

namespace Document

open Json

variable {mend : Mender} {text : String} {value : Value}

/-- Fences make no difference to that. -/
theorem writable_of_readStrict? {chars : List Char} (accepted : readStrict? chars = some value) :
    value.Writable := by
  unfold readStrict? at accepted
  split at accepted
  next read =>
    cases accepted
    exact writable_of_read? read
  next => exact writable_of_read? accepted

/-- Without repairs, a document is read as what its strict text denotes. -/
theorem read_false_eq_ok_iff :
    Document.read mend text false = .ok value ↔
      readStrict? (Text.trim text.toList) = some value := by
  constructor
  · intro read
    simp only [Document.read, Bool.false_eq_true, if_false] at read
    split at read
    · cases read
    · split at read
      next accepted =>
        cases read
        exact accepted
      next => cases read
  · intro accepted
    exact read_of_readStrict? accepted false

/-- What is read without repairs can be written. -/
theorem writable_of_read (read : Document.read mend text false = .ok value) :
    value.Writable :=
  writable_of_readStrict? (read_false_eq_ok_iff.1 read)

/-- The text of a writable value determines it. -/
theorem eq_of_dump_eq {other : Value} {indent : Int} (writable : value.Writable)
    (otherWritable : other.Writable) (same : dump value indent = dump other indent) :
    value = other := by
  have read := readStrict?_dump writable.distinct writable.finite indent
  have otherRead := readStrict?_dump otherWritable.distinct otherWritable.finite indent
  rw [same, otherRead] at read
  exact (Option.some.inj read).symm

end Document

end PageTree
