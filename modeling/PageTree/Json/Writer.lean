import PageTree.Json.StringLiteral
import PageTree.Value

/-!
# Writing JSON texts

A value is written in one of three layouts: compact, on one line with blanks
behind commas and colons, or with one item per line and an indentation.  Strings
are written alike in all of them; a `Format` adds how doubles are spelt and what
stands for the doubles that are no numbers.

`dump` chooses the format by an indentation, as callers give it: compact for
zero, indented for a positive number, one line for a negative one.  Compact texts
spell powers of ten with a plus sign, except in a value that holds an integer
beyond 64 bits or is nested too deeply.
-/

namespace PageTree.Json

/-- Where blanks and line breaks stand. -/
inductive Layout where
  | compact
  | oneLine
  | indented (width : Nat)
  deriving DecidableEq, Repr

/-- How values are written. -/
structure Format where
  layout : Layout
  spelling : Decimal.Spelling
  /-- Whether NaN and the infinities have names; they are null otherwise. -/
  namesNonFinite : Bool
  deriving DecidableEq, Repr

/-- The line break in front of an item or closing bracket at a nesting level. -/
def Layout.lineBreak (layout : Layout) (level : Nat) : List Char :=
  match layout with
  | .indented width => '\n' :: List.replicate (width * level) ' '
  | _ => []

/-- What stands between two items. -/
def Layout.separator (layout : Layout) (level : Nat) : List Char :=
  match layout with
  | .compact => [',']
  | .oneLine => [',', ' ']
  | .indented _ => ',' :: layout.lineBreak level

/-- What stands between a field name and its value. -/
def Layout.colon (layout : Layout) : List Char :=
  match layout with
  | .compact => [':']
  | _ => [':', ' ']

/-- The text of a double. -/
def Format.float (format : Format) : Binary64 → List Char
  | .finite negative rank => format.spelling.writeFinite negative rank.val
  | .nan => if format.namesNonFinite then "NaN".toList else "null".toList
  | .infinite false => if format.namesNonFinite then "Infinity".toList else "null".toList
  | .infinite true => if format.namesNonFinite then "-Infinity".toList else "null".toList

mutual

/-- The text of a value at a nesting level. -/
def Format.write (format : Format) (level : Nat) : Value → List Char
  | .null => "null".toList
  | .bool true => "true".toList
  | .bool false => "false".toList
  | .int number => Numeral.signedDigits number
  | .float number => format.float number
  | .string text => encodeString text
  | .array [] => ['[', ']']
  | .array (item :: rest) =>
      '[' :: format.layout.lineBreak (level + 1) ++
        (format.write (level + 1) item ++ (format.writeItems (level + 1) rest ++
          (format.layout.lineBreak level ++ [']'])))
  | .object [] => ['\x7b', '\x7d']
  | .object ((name, item) :: rest) =>
      '\x7b' :: format.layout.lineBreak (level + 1) ++
        (encodeString name ++ (format.layout.colon ++
          (format.write (level + 1) item ++ (format.writeFields (level + 1) rest ++
            (format.layout.lineBreak level ++ ['\x7d'])))))
termination_by structural value => value

/-- The text of the items behind the first one. -/
def Format.writeItems (format : Format) (level : Nat) : List Value → List Char
  | [] => []
  | item :: rest =>
      format.layout.separator level ++
        (format.write level item ++ format.writeItems level rest)
termination_by structural items => items

/-- The text of the fields behind the first one. -/
def Format.writeFields (format : Format) (level : Nat) :
    List (String × Value) → List Char
  | [] => []
  | (name, item) :: rest =>
      format.layout.separator level ++
        (encodeString name ++ (format.layout.colon ++
          (format.write level item ++ format.writeFields level rest)))
termination_by structural fields => fields

end

/-- The compact format. -/
def Format.compact : Format := ⟨.compact, Decimal.compact, false⟩

/-- The compact format of values beyond `isPlain`. -/
def Format.compactWide : Format := ⟨.compact, Decimal.bare, false⟩

/-- One line with blanks. -/
def Format.oneLine : Format := ⟨.oneLine, Decimal.everyday, true⟩

/-- One item per line. -/
def Format.indented (width : Nat) : Format := ⟨.indented width, Decimal.everyday, true⟩

/-- The nesting up to which a value is plain. -/
def plainDepth : Nat := 254

/-- An integer of 64 bits, with or without a sign. -/
def isWord (number : Int) : Bool :=
  -9223372036854775808 ≤ number && number ≤ 18446744073709551615

/-- All integers are words and the nesting is not too deep. -/
def isPlain (value : Value) : Bool :=
  value.allInts isWord && value.depth ≤ plainDepth

/-- The format for a value and an indentation. -/
def Format.choose (indent : Int) (value : Value) : Format :=
  if indent = 0 then if isPlain value then .compact else .compactWide
  else if indent > 0 then .indented indent.toNat
  else .oneLine

/-- The text of a value with an indentation. -/
def dump (value : Value) (indent : Int) : String :=
  String.ofList ((Format.choose indent value).write 0 value)

end PageTree.Json
