import PageTree.Json.StringLiteral

/-!
# Reading written texts

A literal that was written from a text is read back as that text, whatever follows its
closing mark.  Character by character: the written form of a character is an escape or
the character itself, and the reader takes exactly that form back (`takeChar?_encodeChar`).
-/

namespace PageTree.Json

theorem hexValue?_hexDigit {value : Nat} (small : value < 16) :
    hexValue? (hexDigit value) = some value := by
  have each : ∀ value, value < 16 → hexValue? (hexDigit value) = some value := by decide
  exact each value small

/-- The escape of a control character is read back. -/
theorem takeUnitEscape?_control {char : Char} (control : char.toNat < 0x20)
    (rest : List Char) :
    takeUnitEscape? ('0' :: '0' :: hexDigit (char.toNat / 16) ::
      hexDigit (char.toNat % 16) :: rest) = some (char, rest) := by
  have unit : takeUnit? ('0' :: '0' :: hexDigit (char.toNat / 16) ::
      hexDigit (char.toNat % 16) :: rest) = some (char.toNat, rest) := by
    have zero : hexValue? '0' = some 0 := rfl
    simp only [takeUnit?, zero, hexValue?_hexDigit (show char.toNat / 16 < 16 by omega),
      hexValue?_hexDigit (Nat.mod_lt char.toNat (show 16 > 0 by decide))]
    congr 2
    omega
  have noLeading : isLeadingUnit char.toNat = false := by
    simp only [isLeadingUnit, Bool.and_eq_false_iff, decide_eq_false_iff_not]
    omega
  have noTrailing : isTrailingUnit char.toNat = false := by
    simp only [isTrailingUnit, Bool.and_eq_false_iff, decide_eq_false_iff_not]
    omega
  simp only [takeUnitEscape?, unit, noLeading, noTrailing, Bool.false_eq_true, if_false,
    Char.ofNat_toNat]

/-- The written form of a character is read back as that character. -/
theorem takeChar?_encodeChar (char : Char) (rest : List Char) :
    takeChar? '"' (encodeChar char ++ rest) = some (char, rest) := by
  fun_cases encodeChar char
  case case8 control => exact takeUnitEscape?_control control rest
  case case9 _ noBackslash _ _ _ _ _ control =>
    unfold takeChar?
    split
    next equal => exact absurd (List.cons.inj equal).1 noBackslash
    next equal =>
      cases equal
      exact if_neg control
    next equal => cases equal
  all_goals
    subst char
    rfl

/-- No written form begins with a closing mark. -/
theorem encodeChar_eq_cons (char : Char) :
    ∃ first others, encodeChar char = first :: others ∧ first ≠ '"' := by
  fun_cases encodeChar char
  case case9 noQuote _ _ _ _ _ _ _ => exact ⟨_, _, rfl, noQuote⟩
  all_goals exact ⟨_, _, rfl, by decide⟩

/-- A written text is read back up to its closing mark. -/
theorem takeString?_encodeChars (chars rest : List Char) :
    takeString? '"' (encodeChars chars ++ '"' :: rest) = some (chars, rest) := by
  induction chars with
  | nil =>
      unfold takeString?
      rfl
  | cons char chars ih =>
      obtain ⟨first, others, split, noQuote⟩ := encodeChar_eq_cons char
      have written : encodeChars (char :: chars) ++ '"' :: rest =
          encodeChar char ++ (encodeChars chars ++ '"' :: rest) := by
        simp [encodeChars]
      have taken := takeChar?_encodeChar char (encodeChars chars ++ '"' :: rest)
      rw [written]
      rw [split, List.cons_append] at taken ⊢
      unfold takeString?
      simp only [if_neg noQuote]
      split
      · rename_i nothing
        cases taken.symm.trans nothing
      · rename_i found
        cases taken.symm.trans found
        rw [ih]

end PageTree.Json
