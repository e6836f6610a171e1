import PageTree.Value

/-!
# JSON number literals

A number is an optional minus sign, a whole part without superfluous leading
zeros, and optionally a fraction and a power of ten.  A literal with neither of
the last two denotes an integer, any other the nearest double.  A literal beyond
the finite doubles is refused, unless the dialect reads it as infinity.
-/

namespace PageTree.Json

open Numeral

/-- The parts of a number literal: the digits of the whole part, those of the
fraction, and the power of ten, each of the last two only if written. -/
structure NumberLiteral where
  negative : Bool
  whole : List Char
  fraction : Option (List Char)
  power : Option Int
  deriving DecidableEq, Repr

/-- The longest run of digits in front, and what follows it. -/
def takeDigits (input : List Char) : List Char × List Char :=
  (input.takeWhile isDigit, input.dropWhile isDigit)

/-- The whole part: a single zero, or digits that do not begin with zero. -/
def takeWhole? : List Char → Option (List Char × List Char)
  | [] => none
  | char :: rest =>
      if char = '0' then some (['0'], rest)
      else if isDigit char then some (takeDigits (char :: rest))
      else none

/-- The fraction, if a point follows; behind a point there must be a digit. -/
def takeFraction? : List Char → Option (Option (List Char) × List Char)
  | '.' :: rest =>
      match takeDigits rest with
      | ([], _) => none
      | (chars, rest) => some (some chars, rest)
  | rest => some (none, rest)

/-- The digits of a power of ten behind its sign. -/
def takePowerDigits? (negative : Bool) (input : List Char) :
    Option (Option Int × List Char) :=
  match takeDigits input with
  | ([], _) => none
  | (chars, rest) =>
      let size : Int := value chars
      some (some (if negative then -size else size), rest)

/-- The power of ten, if its mark follows; behind the mark there must be digits,
which may have a sign. -/
def takePower? : List Char → Option (Option Int × List Char)
  | char :: rest =>
      if char = 'e' ∨ char = 'E' then
        match rest with
        | '-' :: rest => takePowerDigits? true rest
        | '+' :: rest => takePowerDigits? false rest
        | _ => takePowerDigits? false rest
      else some (none, char :: rest)
  | [] => some (none, [])

/-- A literal without its sign, and what follows it. -/
def takeUnsigned? (negative : Bool) (input : List Char) :
    Option (NumberLiteral × List Char) :=
  match takeWhole? input with
  | none => none
  | some (whole, rest) =>
      match takeFraction? rest with
      | none => none
      | some (fraction, rest) =>
          match takePower? rest with
          | none => none
          | some (power, rest) => some (⟨negative, whole, fraction, power⟩, rest)

/-- A literal, and what follows it. -/
def takeNumber? : List Char → Option (NumberLiteral × List Char)
  | '-' :: rest => takeUnsigned? true rest
  | input => takeUnsigned? false input

/-- What a literal denotes.  `overflow` is the value of a literal beyond the
finite doubles, by its sign. -/
def NumberLiteral.value? (literal : NumberLiteral)
    (overflow : Bool → Option Value) : Option Value :=
  match literal.fraction, literal.power with
  | none, none =>
      let size : Int := value literal.whole
      some (.int (if literal.negative then -size else size))
  | fraction, power =>
      let places := fraction.getD []
      let decimal : Decimal :=
        ⟨value (literal.whole ++ places), power.getD 0 - places.length⟩
      match decimal.toBinary64? literal.negative with
      | some number => some (.float number)
      | none => overflow literal.negative

theorem takeDigits_length (input : List Char) :
    (takeDigits input).2.length ≤ input.length := by
  simpa [takeDigits] using (List.dropWhile_suffix isDigit).length_le

theorem takeWhole?_shorter {input rest chars : List Char}
    (taken : takeWhole? input = some (chars, rest)) : rest.length < input.length := by
  unfold takeWhole? at taken
  split at taken
  · simp at taken
  · split at taken
    · simp only [Option.some.injEq, Prod.mk.injEq] at taken
      simp [← taken.2]
    · split at taken
      · rename_i char tail _ digit
        have bound := takeDigits_length tail
        simp only [takeDigits] at bound
        simp only [Option.some.injEq, takeDigits, Prod.mk.injEq,
          List.dropWhile_cons_of_pos digit] at taken
        rw [← taken.2, List.length_cons]
        exact Nat.lt_succ_of_le bound
      · simp at taken

theorem takeFraction?_length {input rest : List Char} {chars : Option (List Char)}
    (taken : takeFraction? input = some (chars, rest)) :
    rest.length ≤ input.length := by
  unfold takeFraction? at taken
  split at taken
  · rename_i tail
    have bound := takeDigits_length tail
    split at taken
    · simp at taken
    · rename_i split
      simp only [Option.some.injEq, Prod.mk.injEq] at taken
      rw [split] at bound
      rw [← taken.2, List.length_cons]
      exact Nat.le_succ_of_le bound
  · simp only [Option.some.injEq, Prod.mk.injEq] at taken
    simp [← taken.2]

theorem takePowerDigits?_length {negative : Bool} {input rest : List Char}
    {power : Option Int} (taken : takePowerDigits? negative input = some (power, rest)) :
    rest.length ≤ input.length := by
  have bound := takeDigits_length input
  unfold takePowerDigits? at taken
  split at taken
  · simp at taken
  · rename_i split
    simp only [Option.some.injEq, Prod.mk.injEq] at taken
    rw [split] at bound
    rw [← taken.2]
    exact bound

theorem takePower?_length {input rest : List Char} {power : Option Int}
    (taken : takePower? input = some (power, rest)) : rest.length ≤ input.length := by
  unfold takePower? at taken
  split at taken
  · split at taken
    · split at taken <;>
      · have bound := takePowerDigits?_length taken
        simp only [List.length_cons]
        omega
    · simp only [Option.some.injEq, Prod.mk.injEq] at taken
      simp [← taken.2]
  · simp only [Option.some.injEq, Prod.mk.injEq] at taken
    simp [← taken.2]

theorem takeUnsigned?_shorter {negative : Bool} {input rest : List Char}
    {literal : NumberLiteral}
    (taken : takeUnsigned? negative input = some (literal, rest)) :
    rest.length < input.length := by
  unfold takeUnsigned? at taken
  split at taken
  · simp at taken
  · rename_i whole
    have first := takeWhole?_shorter whole
    split at taken
    · simp at taken
    · rename_i fraction
      have second := takeFraction?_length fraction
      split at taken
      · simp at taken
      · rename_i power
        have third := takePower?_length power
        simp only [Option.some.injEq, Prod.mk.injEq] at taken
        rw [← taken.2]
        omega

theorem takeNumber?_shorter {input rest : List Char} {literal : NumberLiteral}
    (taken : takeNumber? input = some (literal, rest)) : rest.length < input.length := by
  unfold takeNumber? at taken
  split at taken
  · have := takeUnsigned?_shorter taken
    simp only [List.length_cons]
    omega
  · exact takeUnsigned?_shorter taken

end PageTree.Json
