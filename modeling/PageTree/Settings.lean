import PageTree.Value
import PageTree.Settings.IntegerText

/-!
# Settings

The settings of a renderer and their reading from plain data.  A setting may be
given in its own kind or in one that stands for it: numbers as text, truth values
as words or as one and zero, whole numbers as doubles without a fraction.  What a
setting cannot be read from is a `SettingFault`; all faulty settings are named
together.

Integers are of any size, but doubles are read as integers only within 64 bits.
-/

namespace PageTree

/-- How a renderer works. -/
structure Settings where
  logLevel : String := "INFO"
  jsonLogs : Bool := false
  /-- The number of levels at which components are rendered. -/
  maxDepth : Nat := 128
  /-- The file of the theme, if it is not the built-in one. -/
  themePath : Option String := none
  /-- The greatest size of a page descriptor given as text. -/
  maxDescriptorBytes : Nat := 512 * 1024
  /-- Whether descriptors are repaired. -/
  repairJson : Bool := true
  maxDepth_pos : 0 < maxDepth := by decide
  maxDescriptorBytes_pos : 0 < maxDescriptorBytes := by decide

/-- Why a setting is refused. -/
inductive SettingFault where
  /-- A number that is not positive. -/
  | notPositive
  /-- Text that is no integer. -/
  | notNumeral
  /-- A number with a fraction. -/
  | fractional
  /-- A double that is no number. -/
  | notFinite
  /-- A double or a text beyond the size that is read. -/
  | tooLarge
  /-- Data that no integer is read from. -/
  | notInteger
  /-- Text or a number that stands for no truth value. -/
  | notTruthWord
  /-- Data that no truth value is read from. -/
  | notTruth
  /-- Data that is not text. -/
  | notText
  deriving DecidableEq, Repr

/-- The name of a fault. -/
def SettingFault.name : SettingFault → String
  | notPositive => "greater_than"
  | notNumeral => "int_parsing"
  | fractional => "int_from_float"
  | notFinite => "finite_number"
  | tooLarge => "int_parsing_size"
  | notInteger => "int_type"
  | notTruthWord => "bool_parsing"
  | notTruth => "bool_type"
  | notText => "string_type"

/-- What a text is refused for as a setting. -/
def SettingFault.ofIntegerText : IntegerText.Fault → SettingFault
  | .malformed => .notNumeral
  | .tooLong => .tooLarge

namespace Settings

/-- Integers of 64 bits with a sign. -/
def isSignedWord (number : Int) : Bool :=
  -9223372036854775808 ≤ number && number ≤ 9223372036854775807

/-- The integer that a double stands for: its own value, if it has no fraction
and lies strictly between the bounds of 64 bits. -/
def integerOfDouble (number : Binary64) : Except SettingFault Int :=
  match number.toInt? with
  | some integer =>
      if -9223372036854775808 < integer ∧ isSignedWord integer then .ok integer
      else .error .tooLarge
  | none => if number.isFinite then .error .fractional else .error .notFinite

/-- The integer that data stands for. -/
def integer (value : Value) : Except SettingFault Int :=
  match value with
  | .int number => .ok number
  | .bool truth => .ok (if truth then 1 else 0)
  | .string text => (IntegerText.read text).mapError .ofIntegerText
  | .float number => integerOfDouble number
  | _ => .error .notInteger

/-- The positive number that data stands for. -/
def positive (value : Value) : Except SettingFault { number : Nat // 0 < number } :=
  match integer value with
  | .error fault => .error fault
  | .ok number =>
      if isPositive : 0 < number.toNat then .ok ⟨number.toNat, isPositive⟩
      else .error .notPositive

/-- The words for truth, in lower case. -/
def trueWords : List String := ["1", "true", "t", "yes", "y", "on"]

/-- The words for falsity, in lower case. -/
def falseWords : List String := ["0", "false", "f", "no", "n", "off"]

/-- The truth value that an integer stands for. -/
def truthOfInteger (number : Int) : Except SettingFault Bool :=
  if number = 1 then .ok true
  else if number = 0 then .ok false
  else if isSignedWord number then .error .notTruthWord
  else .error .notTruth

/-- The truth value that a text stands for. -/
def truthOfText (text : String) : Except SettingFault Bool :=
  let word := text.map Char.toLower
  if word ∈ trueWords then .ok true
  else if word ∈ falseWords then .ok false
  else .error .notTruthWord

/-- The truth value that data stands for. -/
def truth (value : Value) : Except SettingFault Bool :=
  match value with
  | .bool truth => .ok truth
  | .string text => truthOfText text
  | .int number => truthOfInteger number
  | .float number =>
      match integerOfDouble number with
      | .ok integer => truthOfInteger integer
      | .error _ => .error .notTruth
  | _ => .error .notTruth

/-- Data that is text. -/
def text (value : Value) : Except SettingFault String :=
  match value with
  | .string text => .ok text
  | _ => .error .notText

/-- Data that is text or absent. -/
def optionalText (value : Value) : Except SettingFault (Option String) :=
  match value with
  | .null => .ok none
  | .string text => .ok (some text)
  | _ => .error .notText

/-- Read a given setting, or take its default. -/
def given {α : Type} (values : Record) (name : String) (default : α)
    (read : Value → Except SettingFault α) : Except SettingFault α :=
  match Table.get? values name with
  | some value => read value
  | none => .ok default

/-- The fault of a setting, under its name. -/
def faultOf {α : Type} (name : String) :
    Except SettingFault α → List (String × SettingFault)
  | .error fault => [(name, fault)]
  | .ok _ => []

/-- The names of the settings, in the order of their characters. -/
def names : List String :=
  ["json_logs", "log_level", "max_depth", "max_descriptor_bytes", "repair_json",
    "theme_path"]

/-- Settings from the given ones by name; the others have their defaults.  Either
all of them can be read, or the faulty ones are named in order. -/
def ofValues? (values : Record) : Except (List (String × SettingFault)) Settings :=
  let jsonLogs := given values "json_logs" false truth
  let logLevel := given values "log_level" "INFO" text
  let maxDepth := given values "max_depth" ⟨128, by decide⟩ positive
  let maxBytes := given values "max_descriptor_bytes" ⟨512 * 1024, by decide⟩ positive
  let repairJson := given values "repair_json" true truth
  let themePath := given values "theme_path" none optionalText
  match jsonLogs, logLevel, maxDepth, maxBytes, repairJson, themePath with
  | .ok jsonLogs, .ok logLevel, .ok maxDepth, .ok maxBytes, .ok repairJson,
      .ok themePath =>
      .ok { logLevel, jsonLogs, maxDepth := maxDepth.val, themePath,
            maxDescriptorBytes := maxBytes.val, repairJson,
            maxDepth_pos := maxDepth.property,
            maxDescriptorBytes_pos := maxBytes.property }
  | jsonLogs, logLevel, maxDepth, maxBytes, repairJson, themePath =>
      .error (faultOf "json_logs" jsonLogs ++ faultOf "log_level" logLevel ++
        faultOf "max_depth" maxDepth ++ faultOf "max_descriptor_bytes" maxBytes ++
        faultOf "repair_json" repairJson ++ faultOf "theme_path" themePath)

end Settings

end PageTree
