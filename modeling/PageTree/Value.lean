import PageTree.Table
import PageTree.Decimal.Spelling

/-!
# Values

The plain data that descriptors, themes and rendered trees are made of: null,
booleans, integers of any size, doubles, text, arrays, and objects whose fields
keep their order.  An integer and a double of the same magnitude are different
values; `Value.agrees` is the coarser comparison by numeric value.

`Value.DistinctKeys` says that no object inside a value repeats a field name.
Every value that the reader builds has this property.
-/

namespace PageTree

/-- Plain data. -/
inductive Value where
  | null
  | bool (truth : Bool)
  | int (number : Int)
  | float (number : Binary64)
  | string (text : String)
  | array (items : List Value)
  | object (fields : List (String × Value))
  deriving Inhabited, Repr

/-- The fields of an object, a style, or the properties of a component. -/
abbrev Record := Table Value

namespace Value

/-- The word by which messages name the kind of a value. -/
def kindName : Value → String
  | null => "NoneType"
  | bool _ => "bool"
  | int _ => "int"
  | float _ => "float"
  | string _ => "str"
  | array _ => "list"
  | object _ => "dict"

/-- A field of an object; other values have no fields. -/
def field? (value : Value) (name : String) : Option Value :=
  match value with
  | object fields => Table.get? fields name
  | _ => none

/-- The text of a value that is text. -/
def string? : Value → Option String
  | string text => some text
  | _ => none

/-- The fields of a value that is an object, and an empty record for others. -/
def recordOrEmpty : Value → Record
  | object fields => fields
  | _ => []

/-- The items of a value that is an array, and none for others. -/
def itemsOrEmpty : Value → List Value
  | array items => items
  | _ => []

/-- Text or nothing, with null standing for nothing. -/
def ofString? : Option String → Value
  | some text => string text
  | none => null

mutual

/-- The number of arrays and objects around the innermost value. -/
def depth : Value → Nat
  | array items => depthOfItems items + 1
  | object fields => depthOfFields fields + 1
  | _ => 0
termination_by structural value => value

/-- The greatest depth in a list of values. -/
def depthOfItems : List Value → Nat
  | [] => 0
  | item :: rest => Nat.max (depth item) (depthOfItems rest)
termination_by structural items => items

/-- The greatest depth in a record. -/
def depthOfFields : List (String × Value) → Nat
  | [] => 0
  | (_, item) :: rest => Nat.max (depth item) (depthOfFields rest)
termination_by structural fields => fields

end

mutual

/-- Whether every integer inside a value satisfies a test. -/
def allInts (accept : Int → Bool) : Value → Bool
  | int number => accept number
  | array items => allIntsOfItems accept items
  | object fields => allIntsOfFields accept fields
  | _ => true
termination_by structural value => value

/-- `allInts` for every value of a list. -/
def allIntsOfItems (accept : Int → Bool) : List Value → Bool
  | [] => true
  | item :: rest => allInts accept item && allIntsOfItems accept rest
termination_by structural items => items

/-- `allInts` for every value of a record. -/
def allIntsOfFields (accept : Int → Bool) : List (String × Value) → Bool
  | [] => true
  | (_, item) :: rest => allInts accept item && allIntsOfFields accept rest
termination_by structural fields => fields

end

mutual

/-- Null in place of every infinite double and NaN. -/
def finiteOrNull : Value → Value
  | float number => if number.isFinite then float number else null
  | array items => array (finiteOrNullItems items)
  | object fields => object (finiteOrNullFields fields)
  | other => other
termination_by structural value => value

/-- `finiteOrNull` for every value of a list. -/
def finiteOrNullItems : List Value → List Value
  | [] => []
  | item :: rest => finiteOrNull item :: finiteOrNullItems rest
termination_by structural items => items

/-- `finiteOrNull` for every value of a record. -/
def finiteOrNullFields : List (String × Value) → List (String × Value)
  | [] => []
  | (name, item) :: rest => (name, finiteOrNull item) :: finiteOrNullFields rest
termination_by structural fields => fields

end

mutual

/-- No object inside the value repeats a field name. -/
def DistinctKeys : Value → Prop
  | array items => DistinctKeysOfItems items
  | object fields => Table.Distinct fields ∧ DistinctKeysOfFields fields
  | _ => True
termination_by structural value => value

/-- `DistinctKeys` for every value of a list. -/
def DistinctKeysOfItems : List Value → Prop
  | [] => True
  | item :: rest => DistinctKeys item ∧ DistinctKeysOfItems rest
termination_by structural items => items

/-- `DistinctKeys` for every value of a record. -/
def DistinctKeysOfFields : List (String × Value) → Prop
  | [] => True
  | (_, item) :: rest => DistinctKeys item ∧ DistinctKeysOfFields rest
termination_by structural fields => fields

end

/-- The integer that a number or a truth value counts as: truth values count as
one and zero, and a double counts if it equals an integer. -/
def integral? : Value → Option Int
  | bool truth => some (if truth then 1 else 0)
  | int number => some number
  | float number => number.toInt?
  | _ => none

mutual

/-- Equality that compares numbers and truth values by their numeric value and
objects without regard to the order of their fields. -/
def agrees : Value → Value → Bool
  | null, null => true
  | string left, string right => left == right
  | array left, array right => agreesInOrder left right
  | object left, object right =>
      left.length == right.length && agreesByName left right
  | float left, float right => left.sameNumber right
  | left, right =>
      match left.integral?, right.integral? with
      | some leftNumber, some rightNumber => leftNumber == rightNumber
      | _, _ => false
termination_by structural left => left

/-- Lists of equal length that agree item by item. -/
def agreesInOrder : List Value → List Value → Bool
  | [], [] => true
  | left :: lefts, right :: rights => agrees left right && agreesInOrder lefts rights
  | _, _ => false
termination_by structural lefts => lefts

/-- Every field on the left has an agreeing field of the same name on the right. -/
def agreesByName : List (String × Value) → List (String × Value) → Bool
  | [], _ => true
  | (name, left) :: lefts, rights =>
      (match Table.get? rights name with
        | some right => agrees left right
        | none => false) && agreesByName lefts rights
termination_by structural lefts => lefts

end

/-- The everyday text of a double; infinities and NaN have short names. -/
def floatText : Binary64 → String
  | .finite negative rank =>
      String.ofList (Decimal.everyday.writeFinite negative rank.val)
  | .infinite false => "inf"
  | .infinite true => "-inf"
  | .nan => "nan"

/-- What a field shows as text: text as it is and numbers in their everyday
spelling.  Other values, truth values among them, have no text.  An integer with too
many digits is an error. -/
def asText? : Value → Except Numeral.DigitLimitError (Option String)
  | string text => .ok (some text)
  | int number => (Numeral.write number).map some
  | float number => .ok (some (floatText number))
  | _ => .ok none

@[simp] theorem asText?_string (text : String) : (string text).asText? = .ok (some text) := rfl

end Value

end PageTree
