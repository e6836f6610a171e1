import PageTree.Numeral

/-!
# Digits

More about the digits of numbers: leading zeros do not change the value, the first digit of
a positive number is not zero, and the digits of an integer read back (`signedValue_signedDigits`),
so different integers have different digits.  The text of an integer is the usual one
(`text_eq_toString`), and it is too long from a power of ten on (`isOverlong_iff`).
-/

namespace PageTree.Numeral

/-- All characters are digits. -/
def AllDigits (chars : List Char) : Prop :=
  ∀ char ∈ chars, isDigit char = true

theorem allDigits_digits (number : Nat) : AllDigits (digits number) :=
  fun _ member => isDigit_of_mem_digits member

theorem allDigits_zeros (count : Nat) : AllDigits (List.replicate count '0') := by
  intro char member
  rw [List.eq_of_mem_replicate member]
  rfl

theorem AllDigits.append {left right : List Char} (leftDigits : AllDigits left)
    (rightDigits : AllDigits right) : AllDigits (left ++ right) :=
  List.forall_mem_append.2 ⟨leftDigits, rightDigits⟩

theorem valueFrom_zeros (start count : Nat) :
    valueFrom start (List.replicate count '0') = start * tenTo count := by
  induction count generalizing start with
  | zero => exact (Nat.mul_one start).symm
  | succ count ih =>
      have next : valueFrom start (List.replicate (count + 1) '0') =
          valueFrom (10 * start) (List.replicate count '0') := rfl
      have power : tenTo (count + 1) = 10 * tenTo count := Nat.pow_succ'
      rw [next, ih, power, Nat.mul_comm 10, Nat.mul_assoc]

/-- Leading zeros do not count. -/
theorem value_zeros_append (count : Nat) (chars : List Char) :
    value (List.replicate count '0' ++ chars) = value chars := by
  unfold value
  rw [valueFrom_append, valueFrom_zeros, Nat.zero_mul]

/-- The first digit of a positive number is not zero. -/
theorem exists_digits_eq_cons {number : Nat} (positive : 0 < number) :
    ∃ first others, digits number = first :: others ∧ first ≠ '0' := by
  induction number using Nat.strongRecOn with
  | ind number ih =>
      unfold digits
      split
      · refine ⟨_, [], rfl, ?_⟩
        intro zero
        have remainder := digitValue_digit number
        rw [zero, show digitValue '0' = 0 from rfl] at remainder
        omega
      · obtain ⟨first, others, split, nonzero⟩ := ih (number / 10) (by omega) (by omega)
        exact ⟨first, others ++ [digit number], by rw [split]; rfl, nonzero⟩

/-- An integer is written with digits and perhaps a minus sign. -/
theorem isDigit_or_minus_of_mem {number : Int} {char : Char}
    (member : char ∈ signedDigits number) : isDigit char = true ∨ char = '-' := by
  cases number with
  | ofNat number => exact .inl (isDigit_of_mem_digits member)
  | negSucc number =>
      rcases List.mem_cons.1 member with sign | digit
      · exact .inr sign
      · exact .inl (isDigit_of_mem_digits digit)

theorem minus_notMem_digits (number : Nat) : '-' ∉ digits number := by
  intro member
  exact absurd (isDigit_of_mem_digits member) (by decide)

theorem signedDigits_ne_nil (number : Int) : signedDigits number ≠ [] := by
  cases number with
  | ofNat number => exact digits_ne_nil number
  | negSucc number => exact List.cons_ne_nil _ _

/-- The integer that digits denote, with a minus sign in front of them or without. -/
def signedValue : List Char → Int
  | [] => 0
  | first :: others =>
      if first = '-' then -(value others : Int) else (value (first :: others) : Int)

theorem signedValue_of_unsigned {chars : List Char} (unsigned : '-' ∉ chars) :
    signedValue chars = value chars := by
  cases chars with
  | nil => rfl
  | cons first others =>
      have digitFirst : first ≠ '-' := fun sign => unsigned (sign ▸ List.mem_cons_self)
      rw [signedValue, if_neg digitFirst]

/-- Reading the digits of an integer gives the integer. -/
theorem signedValue_signedDigits (number : Int) :
    signedValue (signedDigits number) = number := by
  cases number with
  | ofNat number =>
      rw [signedDigits, signedValue_of_unsigned (minus_notMem_digits number), value_digits]
      rfl
  | negSucc number =>
      rw [signedDigits, signedValue, if_pos rfl, value_digits]
      rfl

/-! ## The usual text of an integer -/

theorem digit_eq_digitChar (number : Nat) : digit number = (number % 10).digitChar := by
  have small : number % 10 < 10 := Nat.mod_lt _ (by decide)
  have each : ∀ last, last < 10 → Char.ofNat (48 + last) = last.digitChar := by decide
  exact each _ small

theorem digits_eq_toDigits (number : Nat) : digits number = Nat.toDigits 10 number := by
  induction number using Nat.strongRecOn with
  | ind number ih =>
      rw [digits, Nat.toDigits_eq_if (by decide), digit_eq_digitChar]
      split
      · rename_i small
        rw [Nat.mod_eq_of_lt small]
      · rw [ih (number / 10) (by omega)]

/-- A number has at most so many digits below the power of ten. -/
theorem length_digits_le_iff {count : Nat} (positive : 0 < count) (number : Nat) :
    (digits number).length ≤ count ↔ number < tenTo count := by
  rw [digits_eq_toDigits]
  exact Nat.length_toDigits_le_iff (by decide) positive

theorem isOverlong_iff (number : Int) :
    isOverlong number = true ↔ tenTo digitLimit ≤ number.natAbs := by
  have positive : 0 < digitLimit := by decide
  rw [isOverlong, decide_eq_true_iff, ← Nat.not_le, length_digits_le_iff positive, Nat.not_lt]

theorem text_eq_toString (number : Int) : text number = toString number := by
  cases number with
  | ofNat number =>
      rw [text, signedDigits, digits_eq_toDigits, ← Nat.repr_eq_ofList_toDigits]
      rfl
  | negSucc number =>
      rw [text, signedDigits, digits_eq_toDigits, String.ofList_cons,
        ← Nat.repr_eq_ofList_toDigits]
      rfl

end PageTree.Numeral
