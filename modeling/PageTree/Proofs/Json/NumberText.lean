import PageTree.Json.Token
import PageTree.Proofs.Digits
import PageTree.Proofs.Rounding

/-!
# Reading written numbers

The digits of an integer are read back as that integer, and every spelling of the
shortest decimal of a double as that double, whatever follows them, as long as it does
not continue the literal (`EndsNumber`).

The spellings differ in where the point and the power of ten stand.  They are read in
one way: a literal is a whole part, a fraction and a power (`takeNumber?_append`), and
only the decimal that these denote matters (`NumberLiteral.decimal`).  The positional
spelling of a whole number denotes another decimal of the same rank.
-/

namespace PageTree.Json

open Numeral Decimal

variable {chars whole powerText rest : List Char} {negative : Bool} {rank : Nat}

/-- The text does not begin with a character that passes the test. -/
def Stops (test : Char → Bool) : List Char → Prop
  | [] => True
  | char :: _ => test char = false

theorem Stops.append {test : Char → Bool} {left right : List Char}
    (leftStops : Stops test left) (rightStops : Stops test right) :
    Stops test (left ++ right) := by
  cases left with
  | nil => exact rightStops
  | cons char left => exact leftStops

/-- The characters that can continue a number literal. -/
def continuesNumber (char : Char) : Bool :=
  isDigit char || char == '.' || char == 'e' || char == 'E'

/-- Behind a number literal, this text does not continue it. -/
def EndsNumber (rest : List Char) : Prop :=
  Stops continuesNumber rest

theorem EndsNumber.stops_isDigit (ends : EndsNumber rest) : Stops isDigit rest := by
  cases rest with
  | nil => trivial
  | cons char rest =>
      simp only [EndsNumber, Stops, continuesNumber, Bool.or_eq_false_iff] at ends
      exact ends.1.1.1

theorem EndsNumber.stops_point (ends : EndsNumber rest) : Stops (· == '.') rest := by
  cases rest with
  | nil => trivial
  | cons char rest =>
      simp only [EndsNumber, Stops, continuesNumber, Bool.or_eq_false_iff] at ends
      exact ends.1.1.2

theorem takeDigits_append (allDigits : AllDigits chars) (stops : Stops isDigit rest) :
    takeDigits (chars ++ rest) = (chars, rest) := by
  unfold takeDigits
  rw [List.takeWhile_append_of_pos allDigits, List.dropWhile_append_of_pos allDigits]
  cases rest with
  | nil => simp
  | cons char rest =>
      have other : ¬isDigit char = true := Bool.eq_false_iff.1 stops
      rw [List.takeWhile_cons_of_neg other, List.dropWhile_cons_of_neg other,
        List.append_nil]

/-! ## The parts of a literal -/

/-- What may stand in front of the point: zero, or digits that begin with another. -/
inductive IsWhole : List Char → Prop where
  | zero : IsWhole ['0']
  | leading (first : Char) (others : List Char) :
      first ≠ '0' → AllDigits (first :: others) → IsWhole (first :: others)

theorem isWhole_digits (number : Nat) : IsWhole (digits number) := by
  cases number with
  | zero =>
      unfold digits
      exact .zero
  | succ number =>
      obtain ⟨first, others, split, nonzero⟩ := exists_digits_eq_cons (Nat.succ_pos number)
      have allDigits := allDigits_digits (number + 1)
      rw [split] at allDigits ⊢
      exact .leading first others nonzero allDigits

theorem takeWhole?_append (isWhole : IsWhole whole) (stops : Stops isDigit rest) :
    takeWhole? (whole ++ rest) = some (whole, rest) := by
  cases isWhole with
  | zero => rfl
  | leading first others nonzero allDigits =>
      have digit : isDigit first = true := allDigits first List.mem_cons_self
      have taken := takeDigits_append allDigits stops
      simp only [List.cons_append] at taken ⊢
      simp only [takeWhole?, if_neg nonzero, if_pos digit, taken]

/-- The sign of a literal. -/
def signText (negative : Bool) : List Char :=
  if negative then ['-'] else []

/-- The text of a fraction. -/
def fractionText : Option (List Char) → List Char
  | none => []
  | some places => '.' :: places

/-- If there is a fraction, it has digits. -/
def IsFraction (fraction : Option (List Char)) : Prop :=
  ∀ places, fraction = some places → places ≠ [] ∧ AllDigits places

theorem isFraction_none : IsFraction none := by
  intro places absurd
  cases absurd

theorem takeFraction?_append {fraction : Option (List Char)}
    (isFraction : IsFraction fraction) (stops : Stops isDigit rest)
    (noPoint : Stops (· == '.') rest) :
    takeFraction? (fractionText fraction ++ rest) = some (fraction, rest) := by
  cases fraction with
  | none =>
      cases rest with
      | nil => rfl
      | cons char rest =>
          have other : char ≠ '.' := beq_eq_false_iff_ne.1 noPoint
          unfold takeFraction?
          split
          · rename_i equal
            exact absurd (List.cons.inj equal).1 other
          · rfl
  | some places =>
      obtain ⟨nonempty, allDigits⟩ := isFraction places rfl
      simp only [fractionText, List.cons_append, takeFraction?,
        takeDigits_append allDigits stops]

theorem takePower?_of_endsNumber (ends : EndsNumber rest) :
    takePower? rest = some (none, rest) := by
  cases rest with
  | nil => rfl
  | cons char rest =>
      simp only [EndsNumber, Stops, continuesNumber, Bool.or_eq_false_iff,
        beq_eq_false_iff_ne] at ends
      simp [takePower?, ends.1.2, ends.2]

theorem takePowerDigits?_append (nonempty : chars ≠ []) (allDigits : AllDigits chars)
    (stops : Stops isDigit rest) :
    takePowerDigits? negative (chars ++ rest) =
      some (some (if negative then -(value chars : Int) else value chars), rest) := by
  unfold takePowerDigits?
  rw [takeDigits_append allDigits stops]
  cases chars with
  | nil => exact absurd rfl nonempty
  | cons first others => rfl

/-- A literal is read part by part. -/
theorem takeNumber?_append {fraction : Option (List Char)} {power : Option Int}
    (isWhole : IsWhole whole) (isFraction : IsFraction fraction)
    (stops : Stops isDigit (powerText ++ rest))
    (noPoint : Stops (· == '.') (powerText ++ rest))
    (takesPower : takePower? (powerText ++ rest) = some (power, rest)) :
    takeNumber? (signText negative ++
        (whole ++ (fractionText fraction ++ (powerText ++ rest)))) =
      some (⟨negative, whole, fraction, power⟩, rest) := by
  have fractionStops : Stops isDigit (fractionText fraction ++ (powerText ++ rest)) := by
    cases fraction with
    | none => exact stops
    | some places => rfl
  have unsigned : takeUnsigned? negative
      (whole ++ (fractionText fraction ++ (powerText ++ rest))) =
        some (⟨negative, whole, fraction, power⟩, rest) := by
    unfold takeUnsigned?
    simp only [takeWhole?_append isWhole fractionStops,
      takeFraction?_append isFraction stops noPoint, takesPower]
  cases negative with
  | true => exact unsigned
  | false =>
      rw [← unsigned]
      cases isWhole with
      | zero => rfl
      | leading first others _ allDigits =>
          have notMinus : first ≠ '-' := by
            rintro rfl
            cases allDigits '-' List.mem_cons_self
          simp only [signText, Bool.false_eq_true, if_false, List.nil_append,
            List.cons_append]
          unfold takeNumber?
          split
          · rename_i equal
            exact absurd (List.cons.inj equal).1 notMinus
          · rfl

/-! ## Integers -/

theorem signedDigits_eq (number : Int) :
    signedDigits number = signText (decide (number < 0)) ++ digits number.natAbs := by
  cases number with
  | ofNat size => simp [signedDigits, signText]
  | negSucc size => simp [signedDigits, signText, Int.negSucc_lt_zero]

/-- The digits of an integer are read as a literal that denotes it. -/
theorem takeNumber?_signedDigits (number : Int) (ends : EndsNumber rest) :
    ∃ literal, takeNumber? (signedDigits number ++ rest) = some (literal, rest) ∧
      ∀ overflow, literal.value? overflow = some (.int number) := by
  have taken := @takeNumber?_append _ [] rest (decide (number < 0)) none none
    (isWhole_digits number.natAbs) isFraction_none
    ends.stops_isDigit ends.stops_point (takePower?_of_endsNumber ends)
  refine ⟨_, by rw [signedDigits_eq, List.append_assoc]; exact taken, ?_⟩
  intro overflow
  simp only [NumberLiteral.value?, value_digits, decide_eq_true_eq, Option.some.injEq,
    Value.int.injEq]
  split <;> omega

/-! ## Decimals -/

/-- The decimal that a literal with a fraction or a power denotes. -/
def NumberLiteral.decimal (literal : NumberLiteral) : Decimal :=
  ⟨value (literal.whole ++ literal.fraction.getD []),
    literal.power.getD 0 - (literal.fraction.getD []).length⟩

/-- A literal with a fraction or a power whose decimal rounds to the given rank. -/
structure NumberLiteral.Spells (literal : NumberLiteral) (negative : Bool) (rank : Nat) :
    Prop where
  negative_eq : literal.negative = negative
  notInteger : literal.fraction ≠ none ∨ literal.power ≠ none
  rank_eq : literal.decimal.rank = rank

theorem NumberLiteral.Spells.value? {literal : NumberLiteral}
    {rank : Fin finiteMagnitudes} (spells : literal.Spells negative rank.val)
    (overflow : Bool → Option Value) :
    literal.value? overflow = some (.float (.finite negative rank)) := by
  have rounded : literal.decimal.toBinary64? literal.negative =
      some (.finite negative rank) := by
    rw [Decimal.toBinary64?, spells.rank_eq, spells.negative_eq, Binary64.ofRank?_val]
  unfold NumberLiteral.value?
  split
  · rename_i noFraction noPower
    cases spells.notInteger with
    | inl fraction => exact absurd noFraction fraction
    | inr power => exact absurd noPower power
  · unfold NumberLiteral.decimal at rounded
    simp only [rounded]

theorem allDigits_padded (width : Nat) (allDigits : AllDigits chars) :
    AllDigits (padded width chars) :=
  (allDigits_zeros _).append allDigits

@[simp] theorem value_padded (width : Nat) (chars : List Char) :
    value (padded width chars) = value chars :=
  value_zeros_append _ chars

theorem padded_ne_nil (width : Nat) (nonempty : chars ≠ []) : padded width chars ≠ [] := by
  intro empty
  exact nonempty (List.append_eq_nil_iff.1 empty).2

theorem stops_exponentPart {test : Char → Bool} (spelling : Spelling) (power : Int)
    (fails : test 'e' = false) : Stops test (spelling.exponentPart power ++ rest) :=
  fails

/-- The power of ten is read back, with or without a plus sign and padding. -/
theorem takePower?_exponentPart (spelling : Spelling) (power : Int)
    (stops : Stops isDigit rest) :
    takePower? (spelling.exponentPart power ++ rest) = some (some power, rest) := by
  have allDigits := allDigits_padded spelling.exponentWidth (allDigits_digits power.natAbs)
  have nonempty := padded_ne_nil spelling.exponentWidth (digits_ne_nil power.natAbs)
  have taken := fun negative =>
    @takePowerDigits?_append _ _ negative nonempty allDigits stops
  simp only [value_padded, value_digits] at taken
  unfold Spelling.exponentPart
  simp only
  generalize padded spelling.exponentWidth (digits power.natAbs) = chars at *
  by_cases below : power < 0
  · have size : -(power.natAbs : Int) = power := by omega
    simp only [if_pos below, List.cons_append, List.nil_append, takePower?, true_or, if_true,
      taken, size]
  · have size : (power.natAbs : Int) = power := by omega
    simp only [if_neg below]
    by_cases plus : spelling.plusSign = true
    · simp only [if_pos plus, List.cons_append, List.nil_append, takePower?, true_or,
        if_true, taken, Bool.false_eq_true, if_false, size]
    · -- Without a sign, the first digit must not be taken for one.
      simp only [if_neg plus, List.cons_append, List.nil_append, takePower?, true_or,
        if_true]
      cases chars with
      | nil => exact absurd rfl nonempty
      | cons first others =>
          have digit : isDigit first = true := allDigits first List.mem_cons_self
          split
          · rename_i equal
            cases (List.cons.inj equal).1
            cases digit
          · rename_i equal
            cases (List.cons.inj equal).1
            cases digit
          · simp only [taken, Bool.false_eq_true, if_false, size]

/-! ## Spellings -/

/-- The decimal has no power of ten if it is zero. -/
def IsNormal (number : Decimal) : Prop :=
  number.significand = 0 → number.exponent = 0

theorem isNormal_shortest (rank : Nat) : IsNormal (shortest rank) := by
  intro zero
  have found := rank_shortest rank
  by_cases nothing : rank = 0
  · subst nothing
    rfl
  · have spelt : shortest rank = ⟨0, (shortest rank).exponent⟩ := by
      rw [← zero]
    rw [spelt, rank_zero] at found
    exact absurd found.symm nothing

/-- A literal with a point and no power denotes its digits without the point, with a
power of ten that counts the digits behind it. -/
theorem takeNumber?_pointed {front back : List Char} (isWhole : IsWhole front)
    (nonempty : back ≠ []) (allDigits : AllDigits back) (ends : EndsNumber rest) :
    ∃ literal, takeNumber? (signText negative ++ (front ++ '.' :: back ++ rest)) =
        some (literal, rest) ∧
      literal.Spells negative (⟨value (front ++ back), -(back.length : Int)⟩ : Decimal).rank := by
  have isFraction : IsFraction (some back) := by
    intro places equal
    cases equal
    exact ⟨nonempty, allDigits⟩
  have taken := @takeNumber?_append _ [] rest negative _ none isWhole isFraction
    ends.stops_isDigit ends.stops_point (takePower?_of_endsNumber ends)
  refine ⟨_, by rw [List.append_assoc]; exact taken, rfl, .inl (Option.some_ne_none _), ?_⟩
  simp only [NumberLiteral.decimal, Option.getD_some, Option.getD_none, Int.zero_sub]

/-- A whole number is spelt with a fraction of zero. -/
theorem takeNumber?_positional_of_nonneg {number : Decimal} (normal : IsNormal number)
    (whole : 0 ≤ number.exponent) (bounded : number.exponent ≤ 310)
    (ends : EndsNumber rest) :
    ∃ literal, takeNumber? (signText negative ++
        (positional (digits number.significand) number.exponent ++ rest)) =
          some (literal, rest) ∧
      literal.Spells negative number.rank := by
  obtain ⟨significand, power⟩ := number
  obtain ⟨exponent, rfl⟩ := Int.eq_ofNat_of_zero_le whole
  have isWhole : IsWhole (digits significand ++ List.replicate exponent '0') := by
    by_cases zero : significand = 0
    · obtain rfl : exponent = 0 := Int.ofNat.inj (normal zero)
      rw [List.replicate_zero, List.append_nil]
      exact isWhole_digits significand
    · obtain ⟨first, others, split, nonzero⟩ :=
        exists_digits_eq_cons (Nat.pos_of_ne_zero zero)
      have allDigits := (allDigits_digits significand).append (allDigits_zeros exponent)
      rw [split] at allDigits ⊢
      exact .leading first _ nonzero allDigits
  have shifted : value (digits significand ++ List.replicate exponent '0' ++ ['0']) =
      significand * tenTo (exponent + 1) := by
    rw [List.append_assoc, show ['0'] = List.replicate 1 '0' from rfl,
      List.replicate_append_replicate, value, valueFrom_append, valueFrom_zeros]
    exact congrArg (· * tenTo (exponent + 1)) (value_digits significand)
  have sameRank : (⟨value (digits significand ++ List.replicate exponent '0' ++ ['0']),
      -(['0'].length : Int)⟩ : Decimal).rank = (⟨significand, exponent⟩ : Decimal).rank := by
    rw [shifted]
    exact rank_mul_tenTo significand (Int.ofNat_le.1 bounded)
  have spelt : positional (digits significand) exponent =
      digits significand ++ List.replicate exponent '0' ++ '.' :: ['0'] := by
    simp [positional]
  rw [spelt, ← sameRank]
  exact takeNumber?_pointed isWhole (List.cons_ne_nil _ _) (allDigits_zeros 1) ends

/-- In front of the last `places` digits stand the first digits, or else one zero. -/
theorem isWhole_take_padded {significand : Nat} (places : Nat) (nonzero : 0 < significand) :
    IsWhole ((padded (places + 1) (digits significand)).take
      ((padded (places + 1) (digits significand)).length - places)) := by
  obtain ⟨first, others, split, leading⟩ := exists_digits_eq_cons nonzero
  have allDigits := allDigits_digits significand
  rw [split] at allDigits ⊢
  by_cases long : places < (first :: others).length
  · have unpadded : padded (places + 1) (first :: others) = first :: others := by
      unfold padded
      rw [Nat.sub_eq_zero_of_le long]
      rfl
    obtain ⟨count, kept⟩ := Nat.exists_eq_add_one.2 (Nat.sub_pos_of_lt long)
    rw [unpadded, kept, List.take_succ_cons]
    apply IsWhole.leading first _ leading
    intro char member
    rw [← List.take_succ_cons] at member
    exact allDigits char (List.mem_of_mem_take member)
  · obtain ⟨zeros, missing⟩ : ∃ zeros, places + 1 - (first :: others).length = zeros + 1 :=
      Nat.exists_eq_add_one.2 (by omega)
    have length : (padded (places + 1) (first :: others)).length - places = 1 := by
      simp only [padded, List.length_append, List.length_replicate]
      omega
    rw [length, padded, missing]
    exact .zero

/-- Any other number is spelt with its last digits behind the point. -/
theorem takeNumber?_positional_of_neg {number : Decimal} (normal : IsNormal number)
    (fraction : number.exponent < 0) (ends : EndsNumber rest) :
    ∃ literal, takeNumber? (signText negative ++
        (positional (digits number.significand) number.exponent ++ rest)) =
          some (literal, rest) ∧
      literal.Spells negative number.rank := by
  obtain ⟨significand, power⟩ := number
  obtain ⟨places, positive, rfl⟩ : ∃ places : Nat, 0 < places ∧ power = -(places : Int) :=
    ⟨(-power).toNat, by simp only at fraction; omega, by simp only at fraction; omega⟩
  have nonzero : 0 < significand := by
    apply Nat.pos_of_ne_zero
    intro zero
    have nowhere : -(places : Int) = 0 := normal zero
    omega
  have isWhole := isWhole_take_padded places nonzero
  have allDigits := allDigits_padded (places + 1) (allDigits_digits significand)
  have same := value_padded (places + 1) (digits significand)
  have longer : places < (padded (places + 1) (digits significand)).length := by
    simp only [padded, List.length_append, List.length_replicate]
    omega
  have spelt : positional (digits significand) (-(places : Int)) =
      (padded (places + 1) (digits significand)).take
          ((padded (places + 1) (digits significand)).length - places) ++
        '.' :: (padded (places + 1) (digits significand)).drop
          ((padded (places + 1) (digits significand)).length - places) := by
    have notWhole : ¬-(places : Int) ≥ 0 := by omega
    simp only [positional, if_neg notWhole, Int.neg_neg, Int.toNat_natCast]
  rw [spelt]
  generalize padded (places + 1) (digits significand) = chars at *
  have behind : (chars.drop (chars.length - places)).length = places := by
    rw [List.length_drop]
    omega
  have nonempty : chars.drop (chars.length - places) ≠ [] :=
    List.ne_nil_of_length_pos (by omega)
  have backDigits : AllDigits (chars.drop (chars.length - places)) := by
    intro char member
    exact allDigits char (List.mem_of_mem_drop member)
  have taken := @takeNumber?_pointed rest negative _ _ isWhole nonempty backDigits ends
  rw [List.take_append_drop, same, value_digits, behind] at taken
  exact taken

/-- With a power of ten, the digits behind the first one are the fraction. -/
theorem takeNumber?_scientific (spelling : Spelling) (number : Decimal)
    (ends : EndsNumber rest) :
    ∃ literal, takeNumber? (signText negative ++
        (spelling.scientific (digits number.significand)
          (number.exponent + ((digits number.significand).length : Int) - 1) ++ rest)) =
          some (literal, rest) ∧
      literal.Spells negative number.rank := by
  obtain ⟨significand, exponent⟩ := number
  have isWhole := isWhole_digits significand
  have allDigits := allDigits_digits significand
  have back := value_digits significand
  have takesPower := fun power =>
    takePower?_exponentPart spelling power ends.stops_isDigit
  simp only
  cases chars : digits significand with
  | nil => exact absurd chars (digits_ne_nil significand)
  | cons first others =>
      rw [chars] at isWhole allDigits back
      cases others with
      | nil =>
          have taken := @takeNumber?_append _ _ rest negative none _ isWhole
            isFraction_none (stops_exponentPart spelling _ rfl)
            (stops_exponentPart spelling _ rfl)
            (takesPower (exponent + ([first].length : Int) - 1))
          refine ⟨_, taken, rfl, .inr (Option.some_ne_none _), ?_⟩
          simp [NumberLiteral.decimal, back]
      | cons second others =>
          have single : IsWhole [first] := by
            cases isWhole with
            | leading _ _ nonzero allDigits =>
                apply IsWhole.leading first [] nonzero
                intro char member
                rw [List.mem_singleton.1 member]
                exact allDigits first List.mem_cons_self
          have isFraction : IsFraction (some (second :: others)) := by
            intro places equal
            cases equal
            exact ⟨List.cons_ne_nil _ _, (List.forall_mem_cons.1 allDigits).2⟩
          have taken := @takeNumber?_append _ _ rest negative _ _ single isFraction
            (stops_exponentPart spelling _ rfl) (stops_exponentPart spelling _ rfl)
            (takesPower (exponent + ((first :: second :: others).length : Int) - 1))
          have spelt : ∀ power, spelling.scientific (first :: second :: others) power =
              [first] ++ (fractionText (some (second :: others)) ++
                spelling.exponentPart power) :=
            fun _ => rfl
          refine ⟨_, by rw [spelt, List.append_assoc, List.append_assoc]; exact taken, rfl,
            .inr (Option.some_ne_none _), ?_⟩
          simp only [NumberLiteral.decimal, Option.getD_some, List.singleton_append, back,
            List.length_cons]
          congr 2
          omega

/-- The text of a normal decimal is read as a literal of the same rank. -/
theorem takeNumber?_write (spelling : Spelling) {number : Decimal}
    (normal : IsNormal number) (ends : EndsNumber rest) :
    ∃ literal, takeNumber? (signText negative ++ (spelling.write number ++ rest)) =
        some (literal, rest) ∧
      literal.Spells negative number.rank := by
  unfold Spelling.write
  simp only
  split
  · rename_i range
    have bounded : number.exponent ≤ 310 := by
      have below := range.2
      unfold positionalLimit at below
      omega
    by_cases whole : 0 ≤ number.exponent
    · exact takeNumber?_positional_of_nonneg normal whole bounded ends
    · exact takeNumber?_positional_of_neg normal (Int.not_le.1 whole) ends
  · exact takeNumber?_scientific spelling number ends

/-- The text of a finite double is read as a literal that denotes it. -/
theorem takeNumber?_writeFinite (spelling : Spelling) (negative : Bool)
    (rank : Fin finiteMagnitudes) (ends : EndsNumber rest) :
    ∃ literal, takeNumber? (spelling.writeFinite negative rank.val ++ rest) =
        some (literal, rest) ∧
      ∀ overflow, literal.value? overflow = some (.float (.finite negative rank)) := by
  obtain ⟨literal, taken, spells⟩ := @takeNumber?_write rest negative spelling _
    (isNormal_shortest rank.val) ends
  rw [rank_shortest] at spells
  refine ⟨literal, ?_, spells.value?⟩
  unfold Spelling.writeFinite
  rw [List.append_assoc]
  exact taken

/-! ## Characters -/

/-- The characters that number literals consist of. -/
def isNumberChar (char : Char) : Bool :=
  isDigit char || char == '-' || char == '+' || char == '.' || char == 'e'

/-- All characters can stand in a number literal. -/
def AllNumberChars (chars : List Char) : Prop :=
  ∀ char ∈ chars, isNumberChar char = true

theorem allNumberChars_nil : AllNumberChars [] :=
  List.forall_mem_nil _

theorem AllNumberChars.append {left right : List Char} (leftChars : AllNumberChars left)
    (rightChars : AllNumberChars right) : AllNumberChars (left ++ right) :=
  List.forall_mem_append.2 ⟨leftChars, rightChars⟩

theorem AllNumberChars.cons {char : Char} (first : isNumberChar char = true)
    (others : AllNumberChars chars) : AllNumberChars (char :: chars) :=
  List.forall_mem_cons.2 ⟨first, others⟩

theorem allNumberChars_of_allDigits (allDigits : AllDigits chars) :
    AllNumberChars chars := by
  intro char member
  simp [isNumberChar, allDigits char member]

theorem allNumberChars_signText (negative : Bool) : AllNumberChars (signText negative) := by
  cases negative with
  | false => exact allNumberChars_nil
  | true => exact .cons rfl allNumberChars_nil

theorem allNumberChars_signedDigits (number : Int) :
    AllNumberChars (signedDigits number) := by
  rw [signedDigits_eq]
  exact (allNumberChars_signText _).append
    (allNumberChars_of_allDigits (allDigits_digits number.natAbs))

theorem allNumberChars_positional (power : Int) (allDigits : AllDigits chars) :
    AllNumberChars (positional chars power) := by
  unfold positional
  split
  · have point : AllNumberChars ['.', '0'] :=
      .cons rfl (allNumberChars_of_allDigits (allDigits_zeros 1))
    exact (allNumberChars_of_allDigits (allDigits.append (allDigits_zeros _))).append point
  · have padding := allNumberChars_of_allDigits
      (allDigits_padded ((-power).toNat + 1) allDigits)
    apply AllNumberChars.append
    · intro char member
      exact padding char (List.mem_of_mem_take member)
    · apply AllNumberChars.cons rfl
      intro char member
      exact padding char (List.mem_of_mem_drop member)

theorem allNumberChars_exponentPart (spelling : Spelling) (power : Int) :
    AllNumberChars (spelling.exponentPart power) := by
  have padding := allNumberChars_of_allDigits
    (allDigits_padded spelling.exponentWidth (allDigits_digits power.natAbs))
  refine .append (.cons rfl ?_) padding
  split
  · exact .cons rfl allNumberChars_nil
  split
  · exact .cons rfl allNumberChars_nil
  · exact allNumberChars_nil

theorem allNumberChars_scientific (spelling : Spelling) (power : Int)
    (allDigits : AllDigits chars) : AllNumberChars (spelling.scientific chars power) := by
  have digit := allNumberChars_of_allDigits allDigits
  have behind := allNumberChars_exponentPart spelling power
  cases chars with
  | nil => exact allNumberChars_nil
  | cons first others =>
      have begins := digit first List.mem_cons_self
      cases others with
      | nil => exact .cons begins behind
      | cons second others =>
          have fraction : AllNumberChars (second :: others) :=
            (List.forall_mem_cons.1 digit).2
          exact .cons begins (.cons rfl (fraction.append behind))

theorem allNumberChars_writeFinite (spelling : Spelling) (negative : Bool) (rank : Nat) :
    AllNumberChars (spelling.writeFinite negative rank) := by
  refine (allNumberChars_signText negative).append ?_
  unfold Spelling.write
  simp only
  split
  · exact allNumberChars_positional _ (allDigits_digits _)
  · exact allNumberChars_scientific spelling _ (allDigits_digits _)

theorem writeFinite_ne_nil (spelling : Spelling) (negative : Bool) (rank : Nat) :
    spelling.writeFinite negative rank ≠ [] := by
  intro empty
  obtain ⟨-, nothing⟩ := List.append_eq_nil_iff.1 empty
  unfold Spelling.write positional at nothing
  simp only at nothing
  split at nothing
  · split at nothing <;> simp at nothing
  · cases chars : digits (shortest rank).significand with
    | nil => exact digits_ne_nil _ chars
    | cons first others => cases others <;> simp [chars, Spelling.scientific] at nothing

end PageTree.Json
