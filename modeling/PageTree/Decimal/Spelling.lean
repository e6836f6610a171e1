import PageTree.Decimal

/-!
# Spelling of decimals

A decimal is spelt positionally, always with a fraction, when its leading digit
is not too far from the point, and with a power of ten otherwise.  Where the
positional range begins and how the power is written differ between the formats,
so these decisions are the fields of a `Spelling`; the layouts themselves are
common.
-/

namespace PageTree.Decimal

open Numeral

/-- How a format writes decimals. -/
structure Spelling where
  /-- The least power of ten of the leading digit that is spelt positionally. -/
  leastPositional : Int
  /-- Whether a power of ten that is not negative has a plus sign. -/
  plusSign : Bool
  /-- The least number of digits of a power of ten. -/
  exponentWidth : Nat
  deriving DecidableEq, Repr

/-- In every format the positional range ends below `10 ^ 16`. -/
def positionalLimit : Int := 16

/-- Zeros in front of a numeral that is shorter than `width`. -/
def padded (width : Nat) (chars : List Char) : List Char :=
  List.replicate (width - chars.length) '0' ++ chars

/-- Digits with a point such that `power` is the power of ten of the last digit.
There is a digit on both sides of the point. -/
def positional (chars : List Char) (power : Int) : List Char :=
  if power ≥ 0 then
    chars ++ List.replicate power.toNat '0' ++ ['.', '0']
  else
    let places := (-power).toNat
    let whole := padded (places + 1) chars
    whole.take (whole.length - places) ++ '.' :: whole.drop (whole.length - places)

/-- The power of ten behind the mark `e`. -/
def Spelling.exponentPart (spelling : Spelling) (power : Int) : List Char :=
  let sign := if power < 0 then ['-'] else if spelling.plusSign then ['+'] else []
  'e' :: sign ++ padded spelling.exponentWidth (digits power.natAbs)

/-- Digits with a point behind the first one, if there are more, and the power
of ten of that first digit. -/
def Spelling.scientific (spelling : Spelling) (chars : List Char) (power : Int) :
    List Char :=
  match chars with
  | [] => []
  | [only] => only :: spelling.exponentPart power
  | first :: rest => first :: '.' :: rest ++ spelling.exponentPart power

/-- The text of a decimal. -/
def Spelling.write (spelling : Spelling) (number : Decimal) : List Char :=
  let chars := digits number.significand
  let leading : Int := number.exponent + (chars.length : Int) - 1
  if spelling.leastPositional ≤ leading ∧ leading < positionalLimit then
    positional chars number.exponent
  else
    spelling.scientific chars leading

/-- The text of a finite double: the shortest decimal behind its sign. -/
def Spelling.writeFinite (spelling : Spelling) (negative : Bool) (rank : Nat) :
    List Char :=
  (if negative then ['-'] else []) ++ spelling.write (Decimal.shortest rank)

/-- The everyday spelling: positional from `0.0001`, and a power of ten with its
sign and at least two digits. -/
def everyday : Spelling := ⟨-4, true, 2⟩

/-- The compact spelling: positional from `0.00001`, and a power of ten with its
sign and no padding. -/
def compact : Spelling := ⟨-5, true, 1⟩

/-- The bare spelling: as the compact one, but no plus sign in a power of ten. -/
def bare : Spelling := ⟨-5, false, 1⟩

example : everyday.write ⟨15, -8⟩ = "1.5e-07".toList := by decide +kernel
example : compact.write ⟨15, -8⟩ = "1.5e-7".toList := by decide +kernel
example : everyday.write ⟨1, 16⟩ = "1e+16".toList := by decide +kernel
example : bare.write ⟨1, 16⟩ = "1e16".toList := by decide +kernel
example : everyday.write ⟨1, 15⟩ = "1000000000000000.0".toList := by decide +kernel
example : compact.write ⟨1, -5⟩ = "0.00001".toList := by decide +kernel
example : everyday.write ⟨0, 0⟩ = "0.0".toList := by decide +kernel

end PageTree.Decimal
