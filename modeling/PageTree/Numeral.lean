/-!
# Decimal numerals

The digits of a natural number, most significant first and without leading
zeros, and the value of a list of digits.  `value_digits` says that the two are
inverse.  Integers carry a minus sign in front.

Integers are neither read from a text nor written in one if they have more digits
than `digitLimit`; the sign does not count.
-/

namespace PageTree.Numeral

/-- The power of ten with a natural exponent. -/
def tenTo (exponent : Nat) : Nat :=
  Nat.pow 10 exponent

/-- The character of one digit. -/
def digit (value : Nat) : Char :=
  Char.ofNat (48 + value % 10)

/-- The ten decimal digits; no other script's digits count. -/
def isDigit (char : Char) : Bool :=
  48 ≤ char.toNat && char.toNat ≤ 57

/-- The value of one digit character. -/
def digitValue (char : Char) : Nat :=
  char.toNat - 48

/-- The digits of a number, most significant first; zero has one digit. -/
def digits (number : Nat) : List Char :=
  if number < 10 then [digit number]
  else digits (number / 10) ++ [digit number]
termination_by number

/-- The number that a list of digits denotes, continuing from `start`. -/
def valueFrom (start : Nat) (chars : List Char) : Nat :=
  chars.foldl (fun total char => 10 * total + digitValue char) start

/-- The number that a list of digits denotes. -/
def value (chars : List Char) : Nat :=
  valueFrom 0 chars

/-- The digits of an integer, with a minus sign in front of a negative one. -/
def signedDigits : Int → List Char
  | .ofNat number => digits number
  | .negSucc number => '-' :: digits (number + 1)

/-- The text of an integer. -/
def text (number : Int) : String :=
  String.ofList (signedDigits number)

/-- The most digits that are read or written. -/
def digitLimit : Nat := 4300

/-- An integer has too many digits to be written. -/
structure DigitLimitError where
  deriving DecidableEq, Repr

/-- The wording of the error. -/
def DigitLimitError.message (_ : DigitLimitError) : String :=
  "Exceeds the limit (" ++ text digitLimit ++ " digits) for integer string " ++
    "conversion; use sys.set_int_max_str_digits() to increase the limit"

/-- Whether an integer has too many digits. -/
def isOverlong (number : Int) : Bool :=
  digitLimit < (digits number.natAbs).length

/-- The text of an integer, if it has not too many digits. -/
def write (number : Int) : Except DigitLimitError String :=
  if isOverlong number then .error ⟨⟩ else .ok (text number)

theorem toNat_digit (number : Nat) : (digit number).toNat = 48 + number % 10 := by
  have small : number % 10 < 10 := Nat.mod_lt _ (by decide)
  have each : ∀ last, last < 10 → (Char.ofNat (48 + last)).toNat = 48 + last := by
    decide
  exact each _ small

@[simp] theorem digitValue_digit (number : Nat) :
    digitValue (digit number) = number % 10 := by
  simp [digitValue, toNat_digit]

@[simp] theorem isDigit_digit (number : Nat) : isDigit (digit number) = true := by
  have small : number % 10 < 10 := Nat.mod_lt _ (by decide)
  simp only [isDigit, toNat_digit, Bool.and_eq_true, decide_eq_true_eq]
  omega

theorem digits_ne_nil (number : Nat) : digits number ≠ [] := by
  unfold digits
  split <;> simp

theorem isDigit_of_mem_digits {number : Nat} {char : Char}
    (member : char ∈ digits number) : isDigit char = true := by
  induction number using Nat.strongRecOn with
  | ind number ih =>
      unfold digits at member
      split at member
      · simp only [List.mem_singleton] at member
        simp [member]
      · rename_i large
        rcases List.mem_append.1 member with earlier | last
        · exact ih (number / 10) (by omega) earlier
        · simp only [List.mem_singleton] at last
          simp [last]

theorem valueFrom_append (start : Nat) (left right : List Char) :
    valueFrom start (left ++ right) = valueFrom (valueFrom start left) right := by
  simp [valueFrom]

/-- Reading the digits of a number gives the number. -/
theorem value_digits (number : Nat) : value (digits number) = number := by
  induction number using Nat.strongRecOn with
  | ind number ih =>
      unfold digits
      split
      · simp only [value, valueFrom, List.foldl_cons, List.foldl_nil, digitValue_digit]
        omega
      · rename_i large
        have before := ih (number / 10) (by omega)
        unfold value at before ⊢
        rw [valueFrom_append, before]
        simp only [valueFrom, List.foldl_cons, List.foldl_nil, digitValue_digit]
        omega

end PageTree.Numeral
