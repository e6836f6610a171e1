import PageTree.Json.Writer
import PageTree.Proofs.Json.NumberText
import PageTree.Proofs.Json.StringText

/-!
# The tokens of written texts

However a value is laid out, its text is read as the same tokens (`tokensOf`).  `Reads`
says so of a piece of text in front of another; pieces are composed by `Reads.append`,
and blanks are pieces without tokens.  Only numbers depend on what follows them.
-/

namespace PageTree

namespace Value

mutual

/-- No double inside the value is infinite or NaN. -/
def AllFinite : Value → Prop
  | float number => number.isFinite = true
  | array items => AllFiniteItems items
  | object fields => AllFiniteFields fields
  | _ => True
termination_by structural value => value

/-- `AllFinite` for every value of a list. -/
def AllFiniteItems : List Value → Prop
  | [] => True
  | item :: rest => AllFinite item ∧ AllFiniteItems rest
termination_by structural items => items

/-- `AllFinite` for every value of a record. -/
def AllFiniteFields : List (String × Value) → Prop
  | [] => True
  | (_, item) :: rest => AllFinite item ∧ AllFiniteFields rest
termination_by structural fields => fields

end

end Value

namespace Json

variable {rest text : List Char} {token : Token} {tokens : List Token}

mutual

/-- The tokens of a value. -/
def tokensOf : Value → List Token
  | .array [] => [.openArray, .closeArray]
  | .array (item :: rest) =>
      .openArray :: (tokensOf item ++ (tokensOfItems rest ++ [.closeArray]))
  | .object [] => [.openObject, .closeObject]
  | .object ((name, item) :: rest) =>
      .openObject :: .atom (.string name) :: .colon ::
        (tokensOf item ++ (tokensOfFields rest ++ [.closeObject]))
  | value => [.atom value]
termination_by structural value => value

/-- The tokens of the items behind the first one. -/
def tokensOfItems : List Value → List Token
  | [] => []
  | item :: rest => .comma :: (tokensOf item ++ tokensOfItems rest)
termination_by structural items => items

/-- The tokens of the fields behind the first one. -/
def tokensOfFields : List (String × Value) → List Token
  | [] => []
  | (name, item) :: rest =>
      .comma :: .atom (.string name) :: .colon :: (tokensOf item ++ tokensOfFields rest)
termination_by structural fields => fields

end

theorem tokens?_of_isSpace {char : Char} (space : isSpace char = true) (rest : List Char) :
    tokens? .strict (char :: rest) = tokens? .strict rest := by
  rw [tokens?, if_pos space]

/-- A text that begins with no blank begins with a token. -/
theorem tokens?_of_not_isSpace {char : Char} (noSpace : isSpace char = false) (rest : List Char) :
    tokens? .strict (char :: rest) = (takeToken? .strict (char :: rest)).bind fun first =>
      (tokens? .strict first.2).map (first.1 :: ·) := by
  rw [tokens?, if_neg (Bool.eq_false_iff.1 noSpace)]
  split
  next nothing =>
    rw [nothing]
    rfl
  next first behind taken =>
    rw [taken, Option.bind_some]
    cases tokens? .strict behind <;> rfl

/-- In front of `rest`, the text is read as these tokens. -/
def Reads (rest text : List Char) (tokens : List Token) : Prop :=
  tokens? .strict (text ++ rest) = (tokens? .strict rest).map (tokens ++ ·)

theorem reads_nil (rest : List Char) : Reads rest [] [] := by
  unfold Reads
  rw [List.nil_append]
  cases tokens? .strict rest <;> rfl

/-- Pieces of text are read one after the other. -/
theorem Reads.append {left right : List Char} {leftTokens rightTokens : List Token}
    (first : Reads (right ++ rest) left leftTokens) (second : Reads rest right rightTokens) :
    Reads rest (left ++ right) (leftTokens ++ rightTokens) := by
  unfold Reads at *
  rw [List.append_assoc, first, second, Option.map_map]
  congr 1
  funext tokens
  exact (List.append_assoc leftTokens rightTokens tokens).symm

/-- One token is read. -/
theorem reads_token {char : Char} {tail : List Char} (noSpace : isSpace char = false)
    (taken : takeToken? .strict (char :: tail ++ rest) = some (token, rest)) :
    Reads rest (char :: tail) [token] := by
  unfold Reads
  rw [List.cons_append] at taken ⊢
  rw [tokens?_of_not_isSpace noSpace, taken]
  rfl

/-- Blanks are not tokens. -/
theorem reads_spaces {chars : List Char} (spaces : ∀ char ∈ chars, isSpace char = true) :
    Reads rest chars [] := by
  induction chars with
  | nil => exact reads_nil rest
  | cons char chars ih =>
      have skipped := ih fun other member => spaces other (List.mem_cons_of_mem char member)
      unfold Reads at *
      rw [List.cons_append, tokens?_of_isSpace (spaces char List.mem_cons_self)]
      exact skipped

/-! ## Punctuation and blanks -/

theorem reads_openArray (rest : List Char) : Reads rest ['['] [.openArray] :=
  reads_token rfl rfl

theorem reads_closeArray (rest : List Char) : Reads rest [']'] [.closeArray] :=
  reads_token rfl rfl

theorem reads_openObject (rest : List Char) : Reads rest ['\x7b'] [.openObject] :=
  reads_token rfl rfl

theorem reads_closeObject (rest : List Char) : Reads rest ['\x7d'] [.closeObject] :=
  reads_token rfl rfl

theorem isSpace_of_mem_lineBreak {layout : Layout} {level : Nat} {char : Char}
    (member : char ∈ layout.lineBreak level) : isSpace char = true := by
  cases layout with
  | indented width =>
      cases List.mem_cons.1 member with
      | inl lineFeed =>
          rw [lineFeed]
          rfl
      | inr blank =>
          rw [List.eq_of_mem_replicate blank]
          rfl
  | compact | oneLine => cases member

theorem reads_lineBreak (layout : Layout) (level : Nat) :
    Reads rest (layout.lineBreak level) [] :=
  reads_spaces fun _ member => isSpace_of_mem_lineBreak member

theorem reads_comma (rest : List Char) : Reads rest [','] [.comma] :=
  reads_token rfl rfl

theorem reads_blank (rest : List Char) : Reads rest [' '] [] := by
  apply reads_spaces
  intro char member
  rw [List.mem_singleton.1 member]
  rfl

theorem reads_separator (layout : Layout) (level : Nat) :
    Reads rest (layout.separator level) [.comma] := by
  cases layout with
  | compact => exact reads_comma rest
  | oneLine => exact (reads_comma _).append (reads_blank rest)
  | indented width => exact (reads_comma _).append (reads_lineBreak (.indented width) level)

theorem reads_colon (layout : Layout) : Reads rest layout.colon [.colon] := by
  have colon : ∀ rest, Reads rest [':'] [.colon] := fun _ => reads_token rfl rfl
  cases layout with
  | compact => exact colon rest
  | oneLine | indented _ => exact (colon _).append (reads_blank rest)

/-! ## Atoms -/

theorem reads_encodeString (rest : List Char) (text : String) :
    Reads rest (encodeString text) [.atom (.string text)] := by
  have split : '"' :: (encodeChars text.toList ++ ['"']) ++ rest =
      '"' :: (encodeChars text.toList ++ '"' :: rest) := by
    simp
  have string : ∀ input, takeToken? .strict ('"' :: input) = takeStringAtom? '"' input :=
    fun _ => rfl
  refine @reads_token rest _ '"' (encodeChars text.toList ++ ['"']) rfl ?_
  rw [split, string, takeStringAtom?, takeString?_encodeChars]
  simp only [String.ofList_toList]

/-- The characters of numbers begin neither punctuation nor words nor blanks. -/
theorem takeToken?_number {char : Char} (number : isNumberChar char = true)
    (tail : List Char) :
    isSpace char = false ∧
      takeToken? .strict (char :: tail) = takeNumberAtom? .strict (char :: tail) := by
  have other : ∀ symbol, isNumberChar symbol = false → char ≠ symbol := by
    intro symbol excluded same
    rw [same] at number
    cases number.symm.trans excluded
  have noWord : takeWord? Dialect.strict.words (char :: tail) = none := by
    have noWords : Dialect.strict.words = words := rfl
    rw [noWords]
    simp [words, takeWord?, afterWord?, (other 't' rfl).symm, (other 'f' rfl).symm,
      (other 'n' rfl).symm]
  constructor
  · simp [isSpace, other ' ' rfl, other '\n' rfl, other '\r' rfl, other '\t' rfl]
  · simp only [takeToken?, if_neg (other '[' rfl), if_neg (other ']' rfl),
      if_neg (other '\x7b' rfl), if_neg (other '\x7d' rfl), if_neg (other ',' rfl),
      if_neg (other ':' rfl), if_neg (other '"' rfl), other '\'' rfl, false_and, if_false,
      takeAtom?, noWord]

/-- A literal is read as the number that it denotes. -/
theorem reads_number {literal : NumberLiteral} {value : Value} (nonempty : text ≠ [])
    (numberChars : AllNumberChars text)
    (taken : takeNumber? (text ++ rest) = some (literal, rest))
    (denotes : ∀ overflow, literal.value? overflow = some value) :
    Reads rest text [.atom value] := by
  cases text with
  | nil => exact absurd rfl nonempty
  | cons char tail =>
      obtain ⟨noSpace, number⟩ :=
        takeToken?_number (numberChars char List.mem_cons_self) (tail ++ rest)
      apply reads_token noSpace
      rw [List.cons_append] at taken ⊢
      rw [number, takeNumberAtom?, taken]
      simp only [denotes]

theorem reads_signedDigits (number : Int) (ends : EndsNumber rest) :
    Reads rest (Numeral.signedDigits number) [.atom (.int number)] := by
  obtain ⟨literal, taken, denotes⟩ := takeNumber?_signedDigits number ends
  exact reads_number (Numeral.signedDigits_ne_nil number) (allNumberChars_signedDigits number)
    taken denotes

theorem reads_float (format : Format) {number : Binary64} (finite : number.isFinite = true)
    (ends : EndsNumber rest) : Reads rest (format.float number) [.atom (.float number)] := by
  cases number with
  | finite negative rank =>
      obtain ⟨literal, taken, denotes⟩ :=
        takeNumber?_writeFinite format.spelling negative rank ends
      exact reads_number (writeFinite_ne_nil _ negative rank.val)
        (allNumberChars_writeFinite _ negative rank.val) taken denotes
  | infinite | nan => cases finite

/-! ## Values -/

theorem endsNumber_lineBreak (layout : Layout) (level : Nat) :
    EndsNumber (layout.lineBreak level) := by
  cases layout with
  | indented width => rfl
  | compact | oneLine => trivial

theorem endsNumber_writeItems (format : Format) (level : Nat) (items : List Value) :
    EndsNumber (format.writeItems level items) := by
  cases items with
  | nil => trivial
  | cons item items =>
      unfold Format.writeItems
      cases format.layout <;> rfl

theorem endsNumber_writeFields (format : Format) (level : Nat)
    (fields : List (String × Value)) : EndsNumber (format.writeFields level fields) := by
  cases fields with
  | nil => trivial
  | cons field fields =>
      unfold Format.writeFields
      cases format.layout <;> rfl

mutual

/-- The text of a value is read as its tokens, whatever the format. -/
theorem reads_write (format : Format) (level : Nat) (rest : List Char)
    (ends : EndsNumber rest) (value : Value) (finite : value.AllFinite) :
    Reads rest (format.write level value) (tokensOf value) := by
  cases value with
  | null => exact reads_token rfl rfl
  | bool truth => cases truth <;> exact reads_token rfl rfl
  | int number => exact reads_signedDigits number ends
  | float number => exact reads_float format finite ends
  | string text => exact reads_encodeString rest text
  | array items =>
      cases items with
      | nil => exact (reads_openArray _).append (reads_closeArray rest)
      | cons item items =>
          have opening := fun rest => (reads_openArray _).append
            (@reads_lineBreak rest format.layout (level + 1))
          have closing := (reads_lineBreak format.layout level).append
            (reads_closeArray rest)
          have closes := (endsNumber_lineBreak format.layout level).append
            (show EndsNumber [']'] from rfl)
          have behind := (reads_writeItems format (level + 1) _ (closes.append ends) items
            finite.2).append closing
          have first := reads_write format (level + 1) _
            (((endsNumber_writeItems format (level + 1) items).append closes).append ends)
            item finite.1
          exact (opening _).append (first.append behind)
  | object fields =>
      cases fields with
      | nil => exact (reads_openObject _).append (reads_closeObject rest)
      | cons field fields =>
          obtain ⟨name, item⟩ := field
          have opening := fun rest => (reads_openObject _).append
            (@reads_lineBreak rest format.layout (level + 1))
          have closing := (reads_lineBreak format.layout level).append
            (reads_closeObject rest)
          have closes := (endsNumber_lineBreak format.layout level).append
            (show EndsNumber ['\x7d'] from rfl)
          have behind := (reads_writeFields format (level + 1) _ (closes.append ends) fields
            finite.2).append closing
          have first := reads_write format (level + 1) _
            (((endsNumber_writeFields format (level + 1) fields).append closes).append ends)
            item finite.1
          exact (opening _).append ((reads_encodeString _ name).append
            ((reads_colon format.layout).append (first.append behind)))
termination_by structural value

/-- The text of the items behind the first one is read as their tokens. -/
theorem reads_writeItems (format : Format) (level : Nat) (rest : List Char)
    (ends : EndsNumber rest) (items : List Value) (finite : Value.AllFiniteItems items) :
    Reads rest (format.writeItems level items) (tokensOfItems items) := by
  cases items with
  | nil => exact reads_nil rest
  | cons item items =>
      have behind := reads_writeItems format level rest ends items finite.2
      have first := reads_write format level _
        ((endsNumber_writeItems format level items).append ends) item finite.1
      exact (reads_separator format.layout level).append (first.append behind)
termination_by structural items

/-- The text of the fields behind the first one is read as their tokens. -/
theorem reads_writeFields (format : Format) (level : Nat) (rest : List Char)
    (ends : EndsNumber rest) (fields : List (String × Value))
    (finite : Value.AllFiniteFields fields) :
    Reads rest (format.writeFields level fields) (tokensOfFields fields) := by
  cases fields with
  | nil => exact reads_nil rest
  | cons field fields =>
      obtain ⟨name, item⟩ := field
      have behind := reads_writeFields format level rest ends fields finite.2
      have first := reads_write format level _
        ((endsNumber_writeFields format level fields).append ends) item finite.1
      exact (reads_separator format.layout level).append
        ((reads_encodeString _ name).append
          ((reads_colon format.layout).append (first.append behind)))
termination_by structural fields

end

/-- A text without anything behind it is read as its tokens. -/
theorem tokens?_write (format : Format) {value : Value} (finite : value.AllFinite) :
    tokens? .strict (format.write 0 value) = some (tokensOf value) := by
  have read := reads_write format 0 [] trivial value finite
  have nothing : tokens? .strict [] = some [] := by
    unfold tokens?
    rfl
  unfold Reads at read
  rw [List.append_nil, nothing, Option.map_some, List.append_nil] at read
  exact read

end Json

end PageTree
