import PageTree.Text.Printable
import PageTree.Json.StringLiteral
import PageTree.Numeral

/-!
# Quoted names

How a message quotes a name: between apostrophes, or between quotation marks when
the name holds an apostrophe and no quotation mark.  The backslash, the mark in
use and the common controls are written with a backslash, and any other character
without a visible form by its code in hexadecimal.
-/

namespace PageTree.Text

/-- The hexadecimal digits of a number, `width` of them. -/
def hexDigits (number : Nat) : Nat → List Char
  | 0 => []
  | width + 1 => hexDigits (number / 16) width ++ [Json.hexDigit (number % 16)]

/-- The code of a character behind the shortest mark that has room for it. -/
def codeEscape (char : Char) : List Char :=
  let code := char.toNat
  if code < 0x100 then '\\' :: 'x' :: hexDigits code 2
  else if code < 0x10000 then '\\' :: 'u' :: hexDigits code 4
  else '\\' :: 'U' :: hexDigits code 8

/-- One character between two marks. -/
def quoteChar (mark char : Char) : List Char :=
  if char = mark ∨ char = '\\' then ['\\', char]
  else if char = '\n' then ['\\', 'n']
  else if char = '\r' then ['\\', 'r']
  else if char = '\t' then ['\\', 't']
  else if isPrintable char then [char]
  else codeEscape char

/-- The mark that a name is quoted with. -/
def quoteMark (chars : List Char) : Char :=
  if '\'' ∈ chars ∧ '"' ∉ chars then '"' else '\''

/-- A name as messages quote it. -/
def quoted (name : String) : String :=
  let chars := name.toList
  let mark := quoteMark chars
  String.ofList (mark :: chars.flatMap (quoteChar mark) ++ [mark])

example : quoted "it's" = "\"it's\"" := by decide +kernel
example : quoted "a\u2028\\" = "'a\\u2028\\\\'" := by decide +kernel

end PageTree.Text
