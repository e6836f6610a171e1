import PageTree.Json.StringLiteral
import PageTree.Json.NumberLiteral

/-!
# JSON tokens

A JSON text is a list of tokens with blanks between them: brackets, commas,
colons, and *atoms*, which are the values without parts.  `tokens?` reads a whole
text; it fails on the first character that begins no token.

A `Dialect` says which atoms are read beyond those of the strict format.  The
extended dialect has names for the doubles that are no numbers, and its numbers
have no bounds.  In the loose dialect those names are texts, and literals may also
stand between apostrophes.
-/

namespace PageTree.Json

/-- What the names of the doubles that are no numbers denote. -/
inductive NonFinite where
  /-- Nothing: they are refused. -/
  | refused
  /-- The doubles. -/
  | doubles
  /-- Themselves, as texts without a sign. -/
  | texts
  deriving DecidableEq, Repr

/-- Which atoms are read beyond those of the strict format. -/
structure Dialect where
  /-- Literals between apostrophes. -/
  apostrophes : Bool
  /-- `NaN` and `Infinity`; if they are read, numbers beyond the finite range
  denote infinity. -/
  nonFinite : NonFinite
  deriving DecidableEq, Repr

namespace Dialect

/-- The format as it is standardised. -/
def strict : Dialect := ⟨false, .refused⟩

/-- The format with the doubles that are no numbers. -/
def extended : Dialect := ⟨false, .doubles⟩

/-- The format as it is written by hand. -/
def loose : Dialect := ⟨true, .texts⟩

end Dialect

/-- The parts of a JSON text. -/
inductive Token where
  | openArray
  | closeArray
  | openObject
  | closeObject
  | comma
  | colon
  | atom (value : Value)
  deriving Inhabited, Repr

/-- The blanks between tokens. -/
def isSpace (char : Char) : Bool :=
  char == ' ' || char == '\n' || char == '\r' || char == '\t'

/-- What follows a word at the start of the input. -/
def afterWord? (word input : List Char) : Option (List Char) :=
  match word, input with
  | [], input => some input
  | letter :: word, char :: input =>
      if letter = char then afterWord? word input else none
  | _ :: _, [] => none

/-- The words that stand for values. -/
def words : List (List Char × Value) :=
  [("true".toList, .bool true), ("false".toList, .bool false), ("null".toList, .null)]

/-- The words that stand for doubles that are no numbers. -/
def nonFiniteWords : List (List Char × Value) :=
  [("NaN".toList, .float .nan), ("Infinity".toList, .float (.infinite false)),
    ("-Infinity".toList, .float (.infinite true))]

/-- The same words, read as texts. -/
def nonFiniteTexts : List (List Char × Value) :=
  [("NaN".toList, .string "NaN"), ("Infinity".toList, .string "Infinity"),
    ("-Infinity".toList, .string "Infinity")]

/-- The first word of a list that the input begins with. -/
def takeWord? (table : List (List Char × Value)) (input : List Char) :
    Option (Value × List Char) :=
  match table with
  | [] => none
  | (word, value) :: table =>
      match afterWord? word input with
      | some rest => some (value, rest)
      | none => takeWord? table input

/-- The words of a dialect. -/
def Dialect.words (dialect : Dialect) : List (List Char × Value) :=
  match dialect.nonFinite with
  | .refused => Json.words
  | .doubles => Json.words ++ nonFiniteWords
  | .texts => Json.words ++ nonFiniteTexts

/-- What a number beyond the finite range denotes in a dialect. -/
def Dialect.overflow (dialect : Dialect) (negative : Bool) : Option Value :=
  match dialect.nonFinite with
  | .refused => none
  | .doubles | .texts => some (.float (.infinite negative))

/-- A literal as an atom, and what follows it. -/
def takeStringAtom? (quote : Char) (input : List Char) : Option (Token × List Char) :=
  match takeString? quote input with
  | some (chars, rest) => some (.atom (.string (String.ofList chars)), rest)
  | none => none

/-- A number as an atom, and what follows it. -/
def takeNumberAtom? (dialect : Dialect) (input : List Char) :
    Option (Token × List Char) :=
  match takeNumber? input with
  | none => none
  | some (literal, rest) =>
      match literal.value? dialect.overflow with
      | some value => some (.atom value, rest)
      | none => none

/-- A word or a number, and what follows it. -/
def takeAtom? (dialect : Dialect) (input : List Char) : Option (Token × List Char) :=
  match takeWord? dialect.words input with
  | some (value, rest) => some (.atom value, rest)
  | none => takeNumberAtom? dialect input

/-- One token at the start of the input, and what follows it. -/
def takeToken? (dialect : Dialect) : List Char → Option (Token × List Char)
  | [] => none
  | char :: rest =>
      if char = '[' then some (.openArray, rest)
      else if char = ']' then some (.closeArray, rest)
      else if char = '\x7b' then some (.openObject, rest)
      else if char = '\x7d' then some (.closeObject, rest)
      else if char = ',' then some (.comma, rest)
      else if char = ':' then some (.colon, rest)
      else if char = '"' then takeStringAtom? '"' rest
      else if char = '\'' ∧ dialect.apostrophes then takeStringAtom? '\'' rest
      else takeAtom? dialect (char :: rest)

theorem afterWord?_eq_some_iff {word input rest : List Char} :
    afterWord? word input = some rest ↔ input = word ++ rest := by
  induction word generalizing input with
  | nil => simp [afterWord?]
  | cons letter word ih =>
      cases input with
      | nil => simp [afterWord?]
      | cons char input =>
          by_cases same : letter = char
          · simp [afterWord?, same, ih]
          · simp [afterWord?, same, Ne.symm same]

/-- A word that is taken is one of the list, and the input begins with it. -/
theorem takeWord?_eq {table : List (List Char × Value)} {input rest : List Char}
    {value : Value} (taken : takeWord? table input = some (value, rest)) :
    ∃ word, (word, value) ∈ table ∧ input = word ++ rest := by
  induction table with
  | nil => simp [takeWord?] at taken
  | cons entry table ih =>
      obtain ⟨word, entryValue⟩ := entry
      unfold takeWord? at taken
      split at taken
      · rename_i after found
        simp only [Option.some.injEq, Prod.mk.injEq] at taken
        exact ⟨word, by simp [taken.1], taken.2 ▸ afterWord?_eq_some_iff.1 found⟩
      · obtain ⟨other, member, equal⟩ := ih taken
        exact ⟨other, by simp [member], equal⟩

theorem length_pos_of_mem_words {dialect : Dialect} {word : List Char} {value : Value}
    (member : (word, value) ∈ dialect.words) : 0 < word.length := by
  have strict : ∀ entry ∈ Json.words, 0 < entry.1.length := by decide
  have doubles : ∀ entry ∈ nonFiniteWords, 0 < entry.1.length := by decide
  have texts : ∀ entry ∈ nonFiniteTexts, 0 < entry.1.length := by decide
  unfold Dialect.words at member
  split at member
  · exact strict _ member
  · exact (List.mem_append.1 member).elim (strict _) (doubles _)
  · exact (List.mem_append.1 member).elim (strict _) (texts _)

theorem takeStringAtom?_shorter {quote : Char} {input rest : List Char} {token : Token}
    (taken : takeStringAtom? quote input = some (token, rest)) :
    rest.length < input.length := by
  unfold takeStringAtom? at taken
  split at taken
  · rename_i literal
    simp only [Option.some.injEq, Prod.mk.injEq] at taken
    exact taken.2 ▸ takeString?_shorter literal
  · simp at taken

theorem takeNumberAtom?_shorter {dialect : Dialect} {input rest : List Char}
    {token : Token} (taken : takeNumberAtom? dialect input = some (token, rest)) :
    rest.length < input.length := by
  unfold takeNumberAtom? at taken
  split at taken
  · simp at taken
  · rename_i number
    split at taken
    · simp only [Option.some.injEq, Prod.mk.injEq] at taken
      exact taken.2 ▸ takeNumber?_shorter number
    · simp at taken

theorem takeAtom?_shorter {dialect : Dialect} {input rest : List Char} {token : Token}
    (taken : takeAtom? dialect input = some (token, rest)) :
    rest.length < input.length := by
  unfold takeAtom? at taken
  split at taken
  · rename_i found
    obtain ⟨word, member, equal⟩ := takeWord?_eq found
    have positive := length_pos_of_mem_words member
    simp only [Option.some.injEq, Prod.mk.injEq] at taken
    rw [← taken.2, equal, List.length_append]
    omega
  · exact takeNumberAtom?_shorter taken

theorem takeToken?_shorter {dialect : Dialect} {input rest : List Char} {token : Token}
    (taken : takeToken? dialect input = some (token, rest)) :
    rest.length < input.length := by
  have punctuation : ∀ {mark : Token} {char : Char} {tail : List Char},
      some (mark, tail) = some (token, rest) → rest.length < (char :: tail).length := by
    intro mark char tail equal
    simp only [Option.some.injEq, Prod.mk.injEq] at equal
    simp [← equal.2]
  unfold takeToken? at taken
  split at taken
  · simp at taken
  · rename_i char tail
    split at taken
    · exact punctuation taken
    split at taken
    · exact punctuation taken
    split at taken
    · exact punctuation taken
    split at taken
    · exact punctuation taken
    split at taken
    · exact punctuation taken
    split at taken
    · exact punctuation taken
    split at taken
    · exact Nat.lt_succ_of_lt (takeStringAtom?_shorter taken)
    split at taken
    · exact Nat.lt_succ_of_lt (takeStringAtom?_shorter taken)
    · exact takeAtom?_shorter taken

/-- The tokens of a whole text. -/
def tokens? (dialect : Dialect) (input : List Char) : Option (List Token) :=
  match input with
  | [] => some []
  | char :: rest =>
      if isSpace char then tokens? dialect rest
      else
        match _taken : takeToken? dialect (char :: rest) with
        | none => none
        | some (token, rest) =>
            match tokens? dialect rest with
            | some others => some (token :: others)
            | none => none
termination_by input.length
decreasing_by
  · simp
  · exact takeToken?_shorter _taken

end PageTree.Json
