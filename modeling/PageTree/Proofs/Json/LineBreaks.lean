import PageTree.Proofs.LineBreaks

/-!
# Line breaks of a document

A document is read alike whichever line breaks it has (`Document.read_unifyBreaks`).  Between
tokens a line break is a blank, around the document and inside a fence it is trimmed like any
other blank, and in a literal it is refused.

Each function of the reader looks at one character after the other and accepts neither a
carriage return nor a line feed.  So it takes the same from a text whose line breaks are
unified, and leaves what it would have left, with unified line breaks (`IgnoresBreaks`).  This
property is passed on from functions to those that call them.
-/

namespace PageTree

namespace Json

open Text

variable {α β : Type} {take : List Char → Option (α × List Char)}
variable {next : α → List Char → Option (β × List Char)}

/-! ## Taking what stands in front -/

/-- The function takes the same from a text with unified line breaks, and leaves the rest with
unified line breaks. -/
def IgnoresBreaks (take : List Char → Option (α × List Char)) : Prop :=
  ∀ input, take (unifyBreaks input) =
    (take input).map fun taken => (taken.1, unifyBreaks taken.2)

theorem ignoresBreaks_done (value : α) : IgnoresBreaks fun input => some (value, input) :=
  fun _ => rfl

theorem ignoresBreaks_none : IgnoresBreaks fun _ => (none : Option (α × List Char)) :=
  fun _ => rfl

/-- Functions that ignore line breaks may be called one after the other. -/
theorem IgnoresBreaks.bind (first : IgnoresBreaks take)
    (others : ∀ value, IgnoresBreaks (next value)) :
    IgnoresBreaks fun input => (take input).bind fun taken => next taken.1 taken.2 := by
  intro input
  dsimp only
  rw [first input]
  cases take input with
  | none => rfl
  | some taken => exact others taken.1 taken.2

/-- It is enough to look at the first character, if it is no line break. -/
theorem ignoresBreaks_of_head (atEnd : take [] = none)
    (atReturn : ∀ rest, take ('\r' :: rest) = none) (atFeed : ∀ rest, take ('\n' :: rest) = none)
    (behind : ∀ char, NoBreak char → IgnoresBreaks fun rest => take (char :: rest)) :
    IgnoresBreaks take := by
  intro input
  cases input with
  | nil => simp [atEnd]
  | cons char rest =>
      by_cases plain : NoBreak char
      · rw [unifyBreaks_cons plain.1]
        exact behind char plain rest
      · obtain ⟨others, unified⟩ := exists_unifyBreaks_break plain rest
        have refused : take (char :: rest) = none := by
          rcases eq_return_or_feed plain with rfl | rfl
          · exact atReturn rest
          · exact atFeed rest
        rw [unified, atFeed, refused]
        rfl

/-- A function that looks for a mark ignores line breaks if it does so both behind the mark and
where there is none. -/
theorem ignoresBreaks_of_mark (mark : Char) (unmarked : List Char → Option (α × List Char))
    (plain : NoBreak mark)
    (elsewhere : ∀ input, input.head? ≠ some mark → take input = unmarked input)
    (behind : IgnoresBreaks fun rest => take (mark :: rest)) (others : IgnoresBreaks unmarked) :
    IgnoresBreaks take := by
  intro input
  by_cases found : input.head? = some mark
  · obtain ⟨rest, rfl⟩ := List.head?_eq_some_iff.1 found
    rw [unifyBreaks_cons plain.1]
    exact behind rest
  · rw [elsewhere _ found, elsewhere _ (head?_unifyBreaks_ne plain found)]
    exact others input

/-! ## Numbers -/

theorem takeDigits_unifyBreaks (input : List Char) :
    takeDigits (unifyBreaks input) = ((takeDigits input).1, unifyBreaks (takeDigits input).2) := by
  rw [takeDigits, takeWhile_unifyBreaks rfl rfl, dropWhile_unifyBreaks rfl]
  rfl

theorem ignoresBreaks_takeWhole? : IgnoresBreaks takeWhole? := by
  apply ignoresBreaks_of_head rfl (fun _ => rfl) (fun _ => rfl)
  · intro char plain rest
    dsimp only [takeWhole?]
    split
    · rfl
    split
    · have digits := takeDigits_unifyBreaks (char :: rest)
      rw [unifyBreaks_cons plain.1] at digits
      rw [digits]
      rfl
    · rfl

theorem ignoresBreaks_takeFraction? : IgnoresBreaks takeFraction? := by
  apply ignoresBreaks_of_mark '.' (fun input => some (none, input)) (by decide)
  · intro input unmarked
    unfold takeFraction?
    split
    · exact absurd rfl unmarked
    · rfl
  · intro rest
    simp only [takeFraction?, takeDigits_unifyBreaks]
    cases takeDigits rest with
    | mk places behind => cases places <;> rfl
  · exact ignoresBreaks_done none

theorem ignoresBreaks_takePowerDigits? (negative : Bool) :
    IgnoresBreaks (takePowerDigits? negative) := by
  intro input
  simp only [takePowerDigits?, takeDigits_unifyBreaks]
  cases takeDigits input with
  | mk chars behind => cases chars <;> rfl

/-- The power of ten behind its mark, where there is no minus sign. -/
def takePositivePower? : List Char → Option (Option Int × List Char)
  | '+' :: rest => takePowerDigits? false rest
  | input => takePowerDigits? false input

theorem ignoresBreaks_takePositivePower? : IgnoresBreaks takePositivePower? := by
  apply ignoresBreaks_of_mark '+' (takePowerDigits? false) (by decide)
  · intro input unmarked
    unfold takePositivePower?
    split
    · exact absurd rfl unmarked
    · rfl
  · exact ignoresBreaks_takePowerDigits? false
  · exact ignoresBreaks_takePowerDigits? false

theorem ignoresBreaks_takePower?_mark : IgnoresBreaks fun rest => takePower? ('e' :: rest) := by
  apply ignoresBreaks_of_mark '-' takePositivePower? (by decide)
  · intro input unmarked
    simp only [takePower?, true_or, if_true]
    split
    · exact absurd rfl unmarked
    · rfl
    · simp only [takePositivePower?]
  · exact ignoresBreaks_takePowerDigits? true
  · exact ignoresBreaks_takePositivePower?

theorem ignoresBreaks_takePower? : IgnoresBreaks takePower? := by
  have absent : ∀ input : List Char, ¬(input.head? = some 'e' ∨ input.head? = some 'E') →
      takePower? input = some (none, input) := by
    intro input unmarked
    cases input with
    | nil => rfl
    | cons char rest => exact if_neg (by simpa using unmarked)
  intro input
  by_cases marked : input.head? = some 'e' ∨ input.head? = some 'E'
  · rcases marked with found | found
    all_goals
      obtain ⟨rest, rfl⟩ := List.head?_eq_some_iff.1 found
      exact ignoresBreaks_takePower?_mark rest
  · obtain ⟨noSmall, noCapital⟩ := not_or.1 marked
    have unmarked := not_or.2 ⟨head?_unifyBreaks_ne (by decide) noSmall,
      head?_unifyBreaks_ne (by decide) noCapital⟩
    rw [absent _ marked, absent _ unmarked]
    rfl

theorem ignoresBreaks_takeUnsigned? (negative : Bool) : IgnoresBreaks (takeUnsigned? negative) := by
  have parts : takeUnsigned? negative = fun input =>
      (takeWhole? input).bind fun whole => (takeFraction? whole.2).bind fun fraction =>
        (takePower? fraction.2).bind fun power =>
          some (⟨negative, whole.1, fraction.1, power.1⟩, power.2) := by
    funext input
    unfold takeUnsigned?
    cases takeWhole? input with
    | none => rfl
    | some whole =>
        dsimp only [Option.bind_some]
        cases takeFraction? whole.2 with
        | none => rfl
        | some fraction =>
            dsimp only [Option.bind_some]
            cases takePower? fraction.2 <;> rfl
  rw [parts]
  exact ignoresBreaks_takeWhole?.bind fun whole => ignoresBreaks_takeFraction?.bind fun fraction =>
    ignoresBreaks_takePower?.bind fun power => ignoresBreaks_done _

theorem ignoresBreaks_takeNumber? : IgnoresBreaks takeNumber? := by
  apply ignoresBreaks_of_mark '-' (takeUnsigned? false) (by decide)
  · intro input unmarked
    unfold takeNumber?
    split
    · exact absurd rfl unmarked
    · rfl
  · exact ignoresBreaks_takeUnsigned? true
  · exact ignoresBreaks_takeUnsigned? false

/-! ## Literals -/

/-- One hexadecimal digit, and what follows it. -/
def takeHex? : List Char → Option (Nat × List Char)
  | [] => none
  | char :: rest => (hexValue? char).map fun value => (value, rest)

/-- A code unit is taken digit by digit. -/
theorem takeUnit?_eq (input : List Char) :
    takeUnit? input = (takeHex? input).bind fun first => (takeHex? first.2).bind fun second =>
      (takeHex? second.2).bind fun third => (takeHex? third.2).bind fun fourth =>
        some (((first.1 * 16 + second.1) * 16 + third.1) * 16 + fourth.1, fourth.2) := by
  match input with
  | [] => rfl
  | [first] => cases a : hexValue? first <;> simp [takeUnit?, takeHex?, a]
  | [first, second] =>
      cases a : hexValue? first <;> cases b : hexValue? second <;>
        simp [takeUnit?, takeHex?, a, b]
  | [first, second, third] =>
      cases a : hexValue? first <;> cases b : hexValue? second <;> cases c : hexValue? third <;>
        simp [takeUnit?, takeHex?, a, b, c]
  | first :: second :: third :: fourth :: rest =>
      cases a : hexValue? first <;> cases b : hexValue? second <;> cases c : hexValue? third <;>
        cases d : hexValue? fourth <;> simp [takeUnit?, takeHex?, a, b, c, d]

theorem ignoresBreaks_takeHex? : IgnoresBreaks takeHex? := by
  apply ignoresBreaks_of_head rfl (fun _ => rfl) (fun _ => rfl)
  · intro char plain rest
    dsimp only [takeHex?]
    cases hexValue? char <;> rfl

theorem ignoresBreaks_takeUnit? : IgnoresBreaks takeUnit? := by
  rw [funext takeUnit?_eq]
  exact ignoresBreaks_takeHex?.bind fun first => ignoresBreaks_takeHex?.bind fun second =>
    ignoresBreaks_takeHex?.bind fun third => ignoresBreaks_takeHex?.bind fun fourth =>
      ignoresBreaks_done (((first * 16 + second) * 16 + third) * 16 + fourth)

/-- The second half of a character behind the first one. -/
def takeTrailing? (leading : Nat) (input : List Char) : Option (Char × List Char) :=
  match takeUnit? input with
  | none => none
  | some (trailing, rest) =>
      if isTrailingUnit trailing then
        some (Char.ofNat (0x10000 + (leading - 0xd800) * 0x400 + (trailing - 0xdc00)), rest)
      else none

theorem ignoresBreaks_takeTrailing? (leading : Nat) : IgnoresBreaks (takeTrailing? leading) := by
  intro input
  unfold takeTrailing?
  rw [ignoresBreaks_takeUnit? input]
  cases takeUnit? input with
  | none => rfl
  | some unit =>
      dsimp only [Option.map_some]
      split
      · rw [Option.map_some]
      · rw [Option.map_none]

/-- What follows the first half of a character is the escape of the second. -/
def takeTrailingEscape? (leading : Nat) : List Char → Option (Char × List Char)
  | '\\' :: 'u' :: rest => takeTrailing? leading rest
  | _ => none

theorem ignoresBreaks_takeTrailingEscape? (leading : Nat) :
    IgnoresBreaks (takeTrailingEscape? leading) := by
  apply ignoresBreaks_of_mark '\\' (fun _ => none) (by decide) _ _ ignoresBreaks_none
  · intro input unmarked
    unfold takeTrailingEscape?
    split
    · exact absurd rfl unmarked
    · rfl
  · apply ignoresBreaks_of_mark 'u' (fun _ => none) (by decide) _ _ ignoresBreaks_none
    · intro input unmarked
      unfold takeTrailingEscape?
      split
      next same =>
        cases same
        exact absurd rfl unmarked
      next => rfl
    · exact ignoresBreaks_takeTrailing? leading

theorem takeUnitEscape?_eq (input : List Char) :
    takeUnitEscape? input = (takeUnit? input).bind fun unit =>
      if isLeadingUnit unit.1 then takeTrailingEscape? unit.1 unit.2
      else if isTrailingUnit unit.1 then none
      else some (Char.ofNat unit.1, unit.2) := by
  unfold takeUnitEscape?
  cases takeUnit? input with
  | none => rfl
  | some unit => rfl

theorem ignoresBreaks_takeUnitEscape? : IgnoresBreaks takeUnitEscape? := by
  have behind : ∀ unit, IgnoresBreaks fun input =>
      if isLeadingUnit unit then takeTrailingEscape? unit input
      else if isTrailingUnit unit then none
      else some (Char.ofNat unit, input) := by
    intro unit
    cases isLeadingUnit unit with
    | true => exact ignoresBreaks_takeTrailingEscape? unit
    | false =>
        cases isTrailingUnit unit with
        | true => exact ignoresBreaks_none
        | false => exact ignoresBreaks_done _
  rw [funext takeUnitEscape?_eq]
  exact ignoresBreaks_takeUnit?.bind behind

/-- What a backslash and one more character stand for: a character, the escape of a code unit,
or nothing. -/
theorem takeEscape?_cases (char : Char) :
    (∃ denoted, ∀ rest, takeEscape? '"' (char :: rest) = some (denoted, rest)) ∨
      (∀ rest, takeEscape? '"' (char :: rest) = takeUnitEscape? rest) ∨
      ∀ rest, takeEscape? '"' (char :: rest) = none := by
  by_cases listed : char ∈ ['"', '\\', '/', 'b', 'f', 'n', 'r', 't']
  · refine .inl ?_
    simp only [List.mem_cons, List.not_mem_nil, or_false] at listed
    rcases listed with rfl | rfl | rfl | rfl | rfl | rfl | rfl | rfl <;> exact ⟨_, fun _ => rfl⟩
  · refine .inr ?_
    by_cases unit : char = 'u'
    · subst char
      exact .inl fun _ => rfl
    · refine .inr fun rest => ?_
      simp only [List.mem_cons, List.not_mem_nil, or_false, not_or] at listed
      simp [takeEscape?, listed]

theorem ignoresBreaks_takeEscape? : IgnoresBreaks (takeEscape? '"') := by
  apply ignoresBreaks_of_head rfl (fun _ => rfl) (fun _ => rfl)
  · intro char plain
    rcases takeEscape?_cases char with ⟨denoted, taken⟩ | taken | taken
    · rw [funext taken]
      exact ignoresBreaks_done denoted
    · rw [funext taken]
      exact ignoresBreaks_takeUnitEscape?
    · rw [funext taken]
      exact ignoresBreaks_none

theorem ignoresBreaks_takeChar? : IgnoresBreaks (takeChar? '"') := by
  apply ignoresBreaks_of_head rfl (fun _ => rfl) (fun _ => rfl)
  · intro char plain
    by_cases escaped : char = '\\'
    · subst char
      exact ignoresBreaks_takeEscape?
    · have taken : ∀ rest, takeChar? '"' (char :: rest) =
          if char.toNat < 0x20 then none else some (char, rest) := by
        intro rest
        simp [takeChar?]
      rw [funext taken]
      split
      · exact ignoresBreaks_none
      · exact ignoresBreaks_done char

/-- In front of its closing mark, a literal is taken character by character. -/
theorem takeString?_of_head {input : List Char} (unclosed : input.head? ≠ some '"') :
    takeString? '"' input = (takeChar? '"' input).bind fun first =>
      (takeString? '"' first.2).map fun others => (first.1 :: others.1, others.2) := by
  cases input with
  | nil =>
      rw [takeString?]
      rfl
  | cons char rest =>
      have noMark : char ≠ '"' := by simpa using unclosed
      rw [takeString?, if_neg noMark]
      split
      next nothing =>
        rw [nothing]
        rfl
      next first behind taken =>
        rw [taken, Option.bind_some]
        cases takeString? '"' behind <;> rfl

theorem ignoresBreaks_takeString? : IgnoresBreaks (takeString? '"') := by
  intro input
  induction size : input.length using Nat.strongRecOn generalizing input with
  | ind size ih =>
      by_cases closed : input.head? = some '"'
      · obtain ⟨rest, rfl⟩ := List.head?_eq_some_iff.1 closed
        rw [unifyBreaks_cons (by decide), takeString?, takeString?, if_pos rfl, if_pos rfl]
        rfl
      · rw [takeString?_of_head closed,
          takeString?_of_head (head?_unifyBreaks_ne (by decide) closed),
          ignoresBreaks_takeChar? input]
        cases taken : takeChar? '"' input with
        | none => rfl
        | some first =>
            have shorter := takeChar?_shorter taken
            rw [Option.map_some, Option.bind_some, Option.bind_some,
              ih first.2.length (size ▸ shorter) first.2 rfl]
            cases takeString? '"' first.2 <;> rfl

theorem ignoresBreaks_takeStringAtom? : IgnoresBreaks (takeStringAtom? '"') := by
  intro input
  unfold takeStringAtom?
  rw [ignoresBreaks_takeString? input]
  cases takeString? '"' input <;> rfl

/-! ## Tokens -/

theorem ignoresBreaks_takeNumberAtom? (dialect : Dialect) :
    IgnoresBreaks (takeNumberAtom? dialect) := by
  intro input
  unfold takeNumberAtom?
  rw [ignoresBreaks_takeNumber? input]
  cases takeNumber? input with
  | none => rfl
  | some number =>
      simp only [Option.map_some]
      cases number.1.value? dialect.overflow <;> rfl

theorem afterWord?_unifyBreaks {word : List Char} (noBreaks : ∀ char ∈ word, NoBreak char)
    (input : List Char) :
    afterWord? word (unifyBreaks input) = (afterWord? word input).map unifyBreaks := by
  induction word generalizing input with
  | nil => rfl
  | cons letter word ih =>
      obtain ⟨first, others⟩ := List.forall_mem_cons.1 noBreaks
      by_cases begins : input.head? = some letter
      · obtain ⟨rest, rfl⟩ := List.head?_eq_some_iff.1 begins
        rw [unifyBreaks_cons first.1, afterWord?, afterWord?, if_pos rfl, if_pos rfl]
        exact ih others rest
      · have refused : ∀ input : List Char, input.head? ≠ some letter →
            afterWord? (letter :: word) input = none := by
          intro input different
          cases input with
          | nil => rfl
          | cons char rest => exact if_neg fun same => different (congrArg some same.symm)
        rw [refused _ begins, refused _ (head?_unifyBreaks_ne first begins)]
        rfl

theorem ignoresBreaks_takeWord? {table : List (List Char × Value)}
    (noBreaks : ∀ entry ∈ table, ∀ char ∈ entry.1, NoBreak char) :
    IgnoresBreaks (takeWord? table) := by
  intro input
  induction table with
  | nil => rfl
  | cons entry table ih =>
      obtain ⟨first, others⟩ := List.forall_mem_cons.1 noBreaks
      rw [takeWord?, takeWord?, afterWord?_unifyBreaks first, ih others]
      cases afterWord? entry.1 input <;> rfl

theorem ignoresBreaks_takeAtom? : IgnoresBreaks (takeAtom? .strict) := by
  have noBreaks : ∀ entry ∈ Dialect.strict.words, ∀ char ∈ entry.1, NoBreak char := by
    simp [Dialect.words, Dialect.strict, words, NoBreak]
  intro input
  unfold takeAtom?
  rw [ignoresBreaks_takeWord? noBreaks input, ignoresBreaks_takeNumberAtom? .strict input]
  cases takeWord? Dialect.strict.words input <;> rfl

theorem ignoresBreaks_takeToken? : IgnoresBreaks (takeToken? .strict) := by
  apply ignoresBreaks_of_head rfl (fun _ => rfl) (fun _ => rfl)
  · intro char plain rest
    have atom := ignoresBreaks_takeAtom? (char :: rest)
    rw [unifyBreaks_cons plain.1] at atom
    have noApostrophes : ¬(char = '\'' ∧ Dialect.strict.apostrophes = true) := by
      simp [Dialect.strict]
    simp only [takeToken?, if_neg noApostrophes]
    -- the brackets, the comma and the colon
    iterate 6
      split
      · rfl
    split
    · exact ignoresBreaks_takeStringAtom? rest
    · exact atom

/-- A text has the same tokens, whichever line breaks it has. -/
theorem tokens?_unifyBreaks (input : List Char) :
    tokens? .strict (unifyBreaks input) = tokens? .strict input := by
  induction size : input.length using Nat.strongRecOn generalizing input with
  | ind size ih =>
      have shorter : ∀ others : List Char, others.length < input.length →
          tokens? .strict (unifyBreaks others) = tokens? .strict others :=
        fun others less => ih others.length (size ▸ less) others rfl
      cases input with
      | nil => rfl
      | cons char rest =>
          by_cases isReturn : char = '\r'
          · subst char
            by_cases feed : rest.head? = some '\n'
            · obtain ⟨others, rfl⟩ := List.head?_eq_some_iff.1 feed
              rw [unifyBreaks_pair, tokens?_of_isSpace rfl, tokens?_of_isSpace rfl,
                tokens?_of_isSpace rfl, shorter others (Nat.lt_succ_of_lt (Nat.lt_succ_self _))]
            · rw [unifyBreaks_return feed, tokens?_of_isSpace rfl, tokens?_of_isSpace rfl,
                shorter rest (Nat.lt_succ_self _)]
          · rw [unifyBreaks_cons isReturn]
            cases space : isSpace char with
            | true =>
                rw [tokens?_of_isSpace space, tokens?_of_isSpace space,
                  shorter rest (Nat.lt_succ_self _)]
            | false =>
                have unified := ignoresBreaks_takeToken? (char :: rest)
                rw [unifyBreaks_cons isReturn] at unified
                rw [tokens?_of_not_isSpace space, tokens?_of_not_isSpace space, unified]
                cases taken : takeToken? .strict (char :: rest) with
                | none => rfl
                | some first =>
                    rw [Option.map_some, Option.bind_some, Option.bind_some,
                      shorter first.2 (takeToken?_shorter taken)]

theorem read?_unifyBreaks (input : List Char) : read? (unifyBreaks input) = read? input := by
  rw [read?, read?, tokens?_unifyBreaks]

end Json

/-! ## Documents -/

namespace Document

open Text Json

theorem readStrict?_unifyBreaks (chars : List Char) :
    readStrict? (unifyBreaks chars) = readStrict? chars := by
  rw [readStrict?, readStrict?, unfence_unifyBreaks, read?_unifyBreaks, read?_unifyBreaks]

/-- Without repairs, a document is read alike whichever line breaks it has. -/
theorem read_unifyBreaks (mend : Mender) (text : String) :
    Document.read mend (String.ofList (unifyBreaks text.toList)) false =
      Document.read mend text false := by
  have sameEmpty : (unifyBreaks (trim text.toList)).isEmpty = (trim text.toList).isEmpty := by
    rw [Bool.eq_iff_iff, List.isEmpty_iff, List.isEmpty_iff]
    exact unifyBreaks_eq_nil_iff
  simp only [Document.read, String.toList_ofList, trim_unifyBreaks, sameEmpty,
    readStrict?_unifyBreaks, Bool.false_eq_true, if_false]

end Document

end PageTree
