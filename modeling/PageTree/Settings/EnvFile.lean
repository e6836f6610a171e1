import PageTree.Table
import PageTree.Text.Blank
import PageTree.Text.LineBreak
import PageTree.Settings.EnvFile.Reference

/-!
# Environment files

An environment file is a list of statements, each one a name that may have a
value behind an equals sign.  The word `export` may stand in front of it.  Names
may stand between apostrophes.

A value between apostrophes or quotation marks may run over several lines and
have escapes in it.  Any other value ends with its line, or before a comment, and
loses the blanks around it.  A comment begins at a number sign behind a blank.

Behind a statement there may be a comment and nothing else.  A line that breaks
this rule states nothing, and reading goes on with the line after the place where
it broke the rule.

Values can refer to variables: those stated further up in the file, and those of
the environment for names that the file has not stated.
-/

namespace PageTree.EnvFile

open Text

/-- A name, and its value if one is stated, with references still in it. -/
structure Statement where
  name : String
  value : Option (List Char)
  deriving DecidableEq, Repr

/-! ## Lines -/

/-- Blanks inside a line. -/
def isGap (char : Char) : Bool :=
  isBlank char && char != '\n'

/-- A text without the blanks in front, as far as they are in its line. -/
def skipGap (input : List Char) : List Char :=
  input.dropWhile isGap

/-- What follows the line, if the line holds nothing more than a comment. -/
def takeLineEnd? (input : List Char) : Option (List Char) :=
  match skipGap input with
  | [] => some []
  | '\n' :: rest => some rest
  | '#' :: rest => some (nextLine rest)
  | _ => none

/-! ## Names -/

/-- The characters of a name without apostrophes. -/
def isNameChar (char : Char) : Bool :=
  char != '=' && char != '#' && !isBlank char

/-- A name, and what follows it. -/
def takeName? (input : List Char) : Option (String × List Char) :=
  match input with
  | '\'' :: quoted =>
      match quoted.takeWhile (· != '\''), quoted.dropWhile (· != '\'') with
      | first :: others, _ :: rest => some (String.ofList (first :: others), rest)
      | _, _ => none
  | _ =>
      match input.takeWhile isNameChar with
      | [] => none
      | name => some (String.ofList name, input.dropWhile isNameChar)

/-- The word that may stand in front of a name. -/
def exportWord : List Char := "export".toList

/-- A text without the word `export` and the blanks behind it. -/
def skipExport (input : List Char) : List Char :=
  if exportWord.isPrefixOf input then
    match input.drop exportWord.length with
    | char :: rest => if isGap char then skipGap rest else input
    | [] => input
  else input

/-! ## Values -/

/-- What a character behind a backslash means between apostrophes. -/
def apostropheEscape? (char : Char) : Option Char :=
  if char = '\\' ∨ char = '\'' then some char else none

/-- What a character behind a backslash means between quotation marks. -/
def quotationEscape? : Char → Option Char
  | '\\' => some '\\'
  | '\'' => some '\''
  | '"' => some '"'
  | 'a' => some '\x07'
  | 'b' => some '\x08'
  | 'f' => some '\x0c'
  | 'n' => some '\n'
  | 'r' => some '\r'
  | 't' => some '\t'
  | 'v' => some '\x0b'
  | _ => none

/-- A text with the meanings of its escapes in their places.  A backslash without
a meaning stands for itself. -/
def unescape (escape? : Char → Option Char) : List Char → List Char
  | '\\' :: char :: rest =>
      match escape? char with
      | some meant => meant :: unescape escape? rest
      | none => '\\' :: unescape escape? (char :: rest)
  | char :: rest => char :: unescape escape? rest
  | [] => []

/-- Put a character in front of a text that was taken. -/
def consTaken (char : Char) (taken : List Char × List Char) : List Char × List Char :=
  (char :: taken.1, taken.2)

/-- The text up to the closing mark, and what follows the mark.  A backslash takes
a mark or a backslash behind it into the text, so a mark closes the text behind an
even number of backslashes.  If no mark does, the last one closes it. -/
def takeMarked? (mark : Char) : List Char → Option (List Char × List Char)
  | '\\' :: char :: rest =>
      if char = mark then
        match takeMarked? mark rest with
        | some taken => some (consTaken '\\' (consTaken mark taken))
        | none => some (['\\'], rest)
      else if char = '\\' then
        (takeMarked? mark rest).map fun taken => consTaken '\\' (consTaken '\\' taken)
      else (takeMarked? mark (char :: rest)).map (consTaken '\\')
  | char :: rest =>
      if char = mark then some ([], rest)
      else (takeMarked? mark rest).map (consTaken char)
  | [] => none

/-- What stands in front of a comment. -/
def beforeComment (afterBlank : Bool) : List Char → List Char
  | [] => []
  | char :: rest =>
      if char = '#' ∧ afterBlank then []
      else char :: beforeComment (isBlank char) rest

/-- A value without marks, and what follows its line.  `afterBlank` says whether
there was a blank in front. -/
def takePlain (afterBlank : Bool) (input : List Char) : List Char × List Char :=
  (trimEnd (beforeComment afterBlank (input.takeWhile (· != '\n'))),
    input.dropWhile (· != '\n'))

/-- The value behind an equals sign, and what follows it. -/
def takeValue? (input : List Char) : Option (List Char × List Char) :=
  match skipGap input with
  | '\'' :: rest =>
      (takeMarked? '\'' rest).map fun (text, rest) =>
        (unescape apostropheEscape? text, rest)
  | '"' :: rest =>
      (takeMarked? '"' rest).map fun (text, rest) =>
        (unescape quotationEscape? text, rest)
  | rest => some (takePlain (input.head?.any isGap) rest)

/-! ## Statements -/

/-- A statement and what follows it, or else where it breaks off. -/
def takeStatement (input : List Char) :
    Except (List Char) (Statement × List Char) :=
  match takeName? (skipExport input) with
  | none => .error (skipExport input)
  | some (name, behindName) =>
      match skipGap behindName with
      | '=' :: behindSign =>
          match takeValue? behindSign with
          | none => .error behindSign
          | some (value, behindValue) =>
              match takeLineEnd? behindValue with
              | none => .error behindValue
              | some rest => .ok (⟨name, some value⟩, rest)
      | _ =>
          match takeLineEnd? behindName with
          | none => .error behindName
          | some rest => .ok (⟨name, none⟩, rest)

theorem skipGap_length (input : List Char) : (skipGap input).length ≤ input.length :=
  (List.dropWhile_suffix isGap).length_le

theorem takeLineEnd?_length {input rest : List Char}
    (taken : takeLineEnd? input = some rest) : rest.length ≤ input.length := by
  have bound := skipGap_length input
  unfold takeLineEnd? at taken
  split at taken
  · simp only [Option.some.injEq] at taken
    simp [← taken]
  · rename_i behind
    simp only [Option.some.injEq] at taken
    rw [behind, List.length_cons] at bound
    rw [← taken]
    omega
  · rename_i behind
    simp only [Option.some.injEq] at taken
    have line := nextLine_length ‹List Char›
    rw [behind, List.length_cons] at bound
    rw [← taken]
    omega
  · simp at taken

theorem takeName?_shorter {input rest : List Char} {name : String}
    (taken : takeName? input = some (name, rest)) : rest.length < input.length := by
  unfold takeName? at taken
  split at taken
  · rename_i quoted
    have bound := (List.dropWhile_suffix (l := quoted) (· != '\'')).length_le
    split at taken
    · rename_i behind
      simp only [Option.some.injEq, Prod.mk.injEq] at taken
      rw [behind, List.length_cons] at bound
      rw [← taken.2, List.length_cons]
      omega
    · simp at taken
  · split at taken
    · simp at taken
    · rename_i nonempty
      simp only [Option.some.injEq, Prod.mk.injEq] at taken
      have whole := congrArg List.length
        (List.takeWhile_append_dropWhile (p := isNameChar) (l := input))
      have positive := List.length_pos_iff.2 nonempty
      rw [List.length_append] at whole
      rw [← taken.2]
      omega

theorem skipExport_length (input : List Char) :
    (skipExport input).length ≤ input.length := by
  unfold skipExport
  split
  · split
    · rename_i behind
      split
      · have whole := congrArg List.length behind
        have gap := skipGap_length ‹List Char›
        simp only [List.length_drop, List.length_cons] at whole
        omega
      · exact Nat.le_refl _
    · exact Nat.le_refl _
  · exact Nat.le_refl _

theorem takeMarked?_length {mark : Char} {input text rest : List Char}
    (taken : takeMarked? mark input = some (text, rest)) :
    rest.length ≤ input.length := by
  fun_induction takeMarked? mark input generalizing text rest with
  | case1 tail inner found ih =>
      simp only [consTaken, Option.some.injEq, Prod.mk.injEq] at taken
      have bound := ih found
      simp only [List.length_cons, ← taken.2]
      omega
  | case2 =>
      simp only [Option.some.injEq, Prod.mk.injEq] at taken
      simp only [List.length_cons, ← taken.2]
      omega
  | case3 tail _ ih =>
      obtain ⟨inner, found, equal⟩ := Option.map_eq_some_iff.1 taken
      simp only [consTaken, Prod.mk.injEq] at equal
      have bound := ih found
      simp only [List.length_cons, ← equal.2]
      omega
  | case4 char tail _ _ ih =>
      obtain ⟨inner, found, equal⟩ := Option.map_eq_some_iff.1 taken
      simp only [consTaken, Prod.mk.injEq] at equal
      have bound := ih found
      simp only [List.length_cons, ← equal.2] at bound ⊢
      omega
  | case5 =>
      simp only [Option.some.injEq, Prod.mk.injEq] at taken
      simp [← taken.2]
  | case6 char tail _ different ih =>
      obtain ⟨inner, found, equal⟩ := Option.map_eq_some_iff.1 taken
      simp only [consTaken, Prod.mk.injEq] at equal
      have bound := ih found
      simp only [List.length_cons, ← equal.2]
      omega
  | case7 => simp at taken

theorem takeValue?_length {input value rest : List Char}
    (taken : takeValue? input = some (value, rest)) : rest.length ≤ input.length := by
  have bound := skipGap_length input
  unfold takeValue? at taken
  split at taken
  · rename_i behind
    obtain ⟨inner, found, equal⟩ := Option.map_eq_some_iff.1 taken
    have marked := takeMarked?_length found
    simp only [Prod.mk.injEq] at equal
    rw [behind, List.length_cons] at bound
    rw [← equal.2]
    omega
  · rename_i behind
    obtain ⟨inner, found, equal⟩ := Option.map_eq_some_iff.1 taken
    have marked := takeMarked?_length found
    simp only [Prod.mk.injEq] at equal
    rw [behind, List.length_cons] at bound
    rw [← equal.2]
    omega
  · have line := (List.dropWhile_suffix (l := skipGap input) (· != '\n')).length_le
    simp only [takePlain, Option.some.injEq, Prod.mk.injEq] at taken
    rw [← taken.2]
    omega

/-- A statement takes at least its name. -/
theorem takeStatement_shorter {input rest : List Char} {statement : Statement}
    (taken : takeStatement input = .ok (statement, rest)) :
    rest.length < input.length := by
  have exported := skipExport_length input
  unfold takeStatement at taken
  split at taken
  · simp at taken
  · rename_i behindName named
    have name := takeName?_shorter named
    split at taken
    · rename_i behindSign sign
      have gap := skipGap_length behindName
      rw [sign, List.length_cons] at gap
      split at taken
      · simp at taken
      · rename_i valued
        have value := takeValue?_length valued
        split at taken
        · simp at taken
        · rename_i ended
          have line := takeLineEnd?_length ended
          simp only [Except.ok.injEq, Prod.mk.injEq] at taken
          rw [← taken.2]
          omega
    · split at taken
      · simp at taken
      · rename_i ended
        have line := takeLineEnd?_length ended
        simp only [Except.ok.injEq, Prod.mk.injEq] at taken
        rw [← taken.2]
        omega

theorem takeStatement_stopped {input stopped : List Char}
    (broken : takeStatement input = .error stopped) :
    stopped.length ≤ input.length := by
  have exported := skipExport_length input
  unfold takeStatement at broken
  split at broken
  · simp only [Except.error.injEq] at broken
    exact broken ▸ exported
  · rename_i behindName named
    have name := takeName?_shorter named
    split at broken
    · rename_i behindSign sign
      have gap := skipGap_length behindName
      rw [sign, List.length_cons] at gap
      split at broken
      · simp only [Except.error.injEq] at broken
        rw [← broken]
        omega
      · rename_i valued
        have value := takeValue?_length valued
        split at broken
        · simp only [Except.error.injEq] at broken
          rw [← broken]
          omega
        · simp at broken
    · split at broken
      · simp only [Except.error.injEq] at broken
        rw [← broken]
        omega
      · simp at broken

/-- The next statement, if there is one, and what follows it or its line. -/
def nextStatement (input : List Char) : Option Statement × List Char :=
  match takeStatement input with
  | .ok (statement, rest) => (some statement, rest)
  | .error stopped => (none, nextLine stopped)

theorem nextStatement_shorter {input : List Char} (nonempty : input ≠ []) :
    (nextStatement input).2.length < input.length := by
  unfold nextStatement
  split
  · rename_i taken
    exact takeStatement_shorter taken
  · rename_i stopped broken
    have bound := takeStatement_stopped broken
    cases stopped with
    | nil => exact List.length_pos_iff.2 nonempty
    | cons char rest =>
        exact Nat.lt_of_lt_of_le (nextLine_shorter (List.cons_ne_nil char rest)) bound

/-- All statements of a text whose lines end with line feeds. -/
def statements (input : List Char) : List Statement :=
  match _trimmed : input.dropWhile isBlank with
  | [] => []
  | char :: rest =>
      (nextStatement (char :: rest)).1.toList ++
        statements (nextStatement (char :: rest)).2
termination_by input.length
decreasing_by
  have bound := (List.dropWhile_suffix (l := input) isBlank).length_le
  rw [_trimmed] at bound
  exact Nat.lt_of_lt_of_le (nextStatement_shorter (List.cons_ne_nil char rest)) bound

/-- A text without the mark of the byte order in front. -/
def withoutByteOrderMark : List Char → List Char
  | '\ufeff' :: rest => rest
  | input => input

/-- The statements of a file. -/
def parse (text : String) : List Statement :=
  statements (withoutByteOrderMark (unifyBreaks text.toList))

/-! ## Variables -/

/-- What a reference means, given the variables of the environment and those
stated so far.  A name stated without a value means nothing, not the default. -/
def meaning (environment : Table String) (stated : Table (Option String))
    (reference : Reference) : String :=
  match stated.get? reference.name with
  | some value => value.getD ""
  | none => (environment.get? reference.name).getD reference.default

/-- Add a statement to those made so far. -/
def addStatement (environment : Table String) (stated : Table (Option String))
    (statement : Statement) : Table (Option String) :=
  Table.insert stated statement.name (statement.value.map fun value =>
    String.ofList (Reference.substitute (meaning environment stated) value))

/-- What a file states in an environment: for each name its last value, or that
its last statement has none. -/
def read (environment : Table String) (text : String) : Table (Option String) :=
  (parse text).foldl (addStatement environment) []

example : read [] "A=1\n# c\nexport B = 'x y' # z\nC=d # e\nD" =
    [("A", some "1"), ("B", some "x y"), ("C", some "d"), ("D", none)] := by
  decide +kernel
example : read [("A", "1")] "B=$\x7bA\x7d$\x7bC:-2\x7d\nC=\"a\n\\tb\"\nD='e'f" =
    [("B", some "12"), ("C", some "a\n\tb")] := by
  decide +kernel
example : read [] "A=\"x\\\\\" # \"y\"\nB='x\\' # y'\nC='z\\'" =
    [("A", some "x\\"), ("B", some "x' # y"), ("C", some "z\\")] := by
  decide +kernel

end PageTree.EnvFile
