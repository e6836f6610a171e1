import PageTree.Json.NumberLiteral
import PageTree.Text.Blank

/-!
# Integers in texts

A setting that is a number may be given as text.  White space around it is
dropped, and a sign may stand in front.  The number itself is in *loose* form:
zeros and underscores in front of it, if the first of them is a zero; then digits
that may have single underscores between them; then perhaps a point and zeros.

What is left without these additions is in *strict* form: digits of which the
first is no zero, or a single zero.  Behind zeros in front, and without a sign
before them, a minus sign may stand in front of the strict form.
-/

namespace PageTree.IntegerText

open Numeral

/-- Why a text is not read. -/
inductive Fault where
  /-- A text that is no integer. -/
  | malformed
  /-- A text with more digits than are read. -/
  | tooLong
  deriving DecidableEq, Repr

/-! ## Loose form -/

/-- What follows the zeros and underscores in front of a number.  `last` is the
last of those passed so far; it stays if the number is zero or has a fraction
behind its zeros. -/
def afterZeros? (last : Char) : List Char → Option (List Char)
  | [] => some [last]
  | char :: rest =>
      if char = '0' ∨ char = '_' then afterZeros? char rest
      else if char = '.' then some (last :: char :: rest)
      else if char = '-' ∨ isDigit char then some (char :: rest)
      else none

/-- A number without the zeros in front; it must begin with a digit. -/
def withoutZeros? : List Char → Option (List Char)
  | [] => none
  | char :: rest =>
      if char = '0' then afterZeros? char rest
      else if isDigit char then some (char :: rest)
      else none

/-- A number without a fraction of zeros, of which there is at least one. -/
def withoutZeroFraction (chars : List Char) : List Char :=
  match chars.dropWhile (· != '.') with
  | _ :: first :: others =>
      if (first :: others).all (· == '0') then chars.takeWhile (· != '.') else chars
  | _ => chars

/-- A number without its underscores, if each of them has other characters on both
sides. -/
def joined? : List Char → Option (List Char)
  | [] => none
  | [char] => if char = '_' then none else some [char]
  | char :: '_' :: rest => if char = '_' then none else (joined? rest).map (char :: ·)
  | char :: rest => if char = '_' then none else (joined? rest).map (char :: ·)

/-- A number in loose form without what may be added to the strict one.  Misplaced
underscores stay. -/
def tidied? (chars : List Char) : Option (List Char) :=
  (withoutZeros? chars).map fun number =>
    (joined? (withoutZeroFraction number)).getD (withoutZeroFraction number)

/-! ## Strict form -/

/-- The value of a number in strict form.  Too many digits are noticed before
anything that follows them. -/
def strictValue (negative : Bool) (chars : List Char) : Except Fault Int :=
  match Json.takeWhole? chars with
  | none => .error .malformed
  | some (whole, rest) =>
      if digitLimit < whole.length then .error .tooLong
      else if rest.isEmpty then
        .ok (if negative then -(value whole : Int) else (value whole : Int))
      else .error .malformed

/-- The value of a number with a minus sign in front. -/
def negativeValue (chars : List Char) : Except Fault Int :=
  match tidied? chars with
  | none => .error .malformed
  | some number => strictValue true number

/-- The value of a number without a minus sign in front. -/
def plainValue (chars : List Char) : Except Fault Int :=
  match tidied? chars with
  | none => .error .malformed
  | some ('-' :: number) => strictValue true number
  | some number => strictValue false number

/-- The integer in a text. -/
def read (text : String) : Except Fault Int :=
  match Text.trimWhere Text.isWhiteSpace text.toList with
  | '-' :: rest => negativeValue rest
  | '+' :: rest => plainValue rest
  | rest => plainValue rest

example : (read " +0_12.00 ").toOption = some 12 := by decide +kernel
example : (read "-0_7").toOption = some (-7) := by decide +kernel
example : (read "00__7").toOption = some 7 := by decide +kernel
example : (read "0-_1").toOption = some (-1) := by decide +kernel
example : (read "-_5").toOption = none := by decide +kernel
example : (read "1__0").toOption = none := by decide +kernel
example : (read "12.").toOption = none := by decide +kernel

end PageTree.IntegerText
