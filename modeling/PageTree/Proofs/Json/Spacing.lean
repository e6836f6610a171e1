import PageTree.Proofs.Json.RoundTrip

/-!
# Layouts differ in their spacing

The three layouts of a value write the same characters but for the blanks and line breaks
between them.  To say so, a text is squeezed: what passes a test is dropped where it stands
outside of the string literals (`Json.squeeze`).  A text of a value without doubles becomes its
compact text in this way, whatever its layout, and the compact text itself has nothing to drop
(`Json.squeeze_dump`).  Doubles are excepted because the formats spell them differently.

Where a literal ends is told by a scan, which knows of the character after a backslash that it
does not count (`Json.Zone`).  The scan is outside of literals at the seams between the pieces
of a written text, so pieces are squeezed one by one (`Json.Squeezes`).
-/

namespace PageTree

namespace Value

mutual

/-- There is no double inside the value. -/
def FloatFree : Value → Prop
  | float _ => False
  | array items => FloatFreeItems items
  | object fields => FloatFreeFields fields
  | _ => True
termination_by structural value => value

/-- `FloatFree` for every value of a list. -/
def FloatFreeItems : List Value → Prop
  | [] => True
  | item :: rest => FloatFree item ∧ FloatFreeItems rest
termination_by structural items => items

/-- `FloatFree` for every value of a record. -/
def FloatFreeFields : List (String × Value) → Prop
  | [] => True
  | (_, item) :: rest => FloatFree item ∧ FloatFreeFields rest
termination_by structural fields => fields

end

end Value

namespace Json

/-! ## Scanning a text -/

/-- Where a character stands in a text. -/
inductive Zone where
  | outside
  | literal
  /-- In a literal, behind the backslash of an escape. -/
  | escaped
  deriving DecidableEq, Repr

/-- Where the next character stands. -/
def Zone.next : Zone → Char → Zone
  | outside, char => if char = '"' then literal else outside
  | literal, char => if char = '"' then outside else if char = '\\' then escaped else literal
  | escaped, _ => literal

/-- What is left of a text that begins in a zone, without the characters outside of literals
that pass a test. -/
def squeezeFrom (drops : Char → Bool) : Zone → List Char → List Char
  | _, [] => []
  | zone, char :: rest =>
      if zone = .outside ∧ drops char = true then squeezeFrom drops zone rest
      else char :: squeezeFrom drops (zone.next char) rest

/-- The characters outside of literals, with the quotation marks that open these. -/
def outsideFrom : Zone → List Char → List Char
  | _, [] => []
  | zone, char :: rest =>
      if zone = .outside then char :: outsideFrom (zone.next char) rest
      else outsideFrom (zone.next char) rest

/-- The text without the characters outside of its literals that pass a test. -/
def squeeze (drops : Char → Bool) (text : String) : String :=
  String.ofList (squeezeFrom drops .outside text.toList)

/-- The characters outside of the literals of a text. -/
def outside (text : String) : List Char :=
  outsideFrom .outside text.toList

variable {drops : Char → Bool} {text compactText : List Char}

/-- A text of which nothing is dropped has nothing to drop. -/
theorem drops_eq_false_of_squeezeFrom {zone : Zone}
    (unchanged : squeezeFrom drops zone text = text) :
    ∀ char ∈ outsideFrom zone text, drops char = false := by
  have shorter : ∀ (text : List Char) (zone : Zone),
      (squeezeFrom drops zone text).length ≤ text.length := by
    intro text
    induction text with
    | nil => exact fun _ => Nat.le_refl 0
    | cons char rest ih =>
        intro zone
        unfold squeezeFrom
        split
        · exact Nat.le_succ_of_le (ih zone)
        · exact Nat.succ_le_succ (ih _)
  induction text generalizing zone with
  | nil => exact List.forall_mem_nil _
  | cons char rest ih =>
      unfold squeezeFrom at unchanged
      split at unchanged
      next =>
        have lost := shorter rest zone
        rw [unchanged, List.length_cons] at lost
        exact absurd lost (Nat.not_succ_le_self _)
      next kept =>
        have others := ih (List.cons.inj unchanged).2
        unfold outsideFrom
        split
        next here =>
          rw [List.forall_mem_cons]
          exact ⟨by simpa [here] using kept, others⟩
        next => exact others

/-- The test passes the spacing of layouts, and nothing but blanks. -/
structure IsSpacing (drops : Char → Bool) : Prop where
  blank : drops ' ' = true
  lineFeed : drops '\n' = true
  only : ∀ char, drops char = true → Text.isBlank char = true

/-- In front of any other text, a piece is squeezed to another one. -/
def Squeezes (drops : Char → Bool) (text compactText : List Char) : Prop :=
  ∀ rest, squeezeFrom drops .outside (text ++ rest) =
    compactText ++ squeezeFrom drops .outside rest

theorem squeezes_nil (drops : Char → Bool) : Squeezes drops [] [] :=
  fun _ => rfl

theorem Squeezes.append {left right compactLeft compactRight : List Char}
    (first : Squeezes drops left compactLeft) (second : Squeezes drops right compactRight) :
    Squeezes drops (left ++ right) (compactLeft ++ compactRight) := by
  intro rest
  rw [List.append_assoc, first, second, List.append_assoc]

/-- Spacing is dropped. -/
theorem squeezes_dropped (passes : ∀ char ∈ text, drops char = true) : Squeezes drops text [] := by
  induction text with
  | nil => exact squeezes_nil drops
  | cons char chars ih =>
      obtain ⟨first, others⟩ := List.forall_mem_cons.1 passes
      intro rest
      rw [List.cons_append, squeezeFrom, if_pos ⟨rfl, first⟩]
      exact ih others rest

/-- Everything else outside of literals is kept. -/
theorem squeezes_kept (spacing : IsSpacing drops)
    (plain : ∀ char ∈ text, Text.isBlank char = false ∧ char ≠ '"') :
    Squeezes drops text text := by
  induction text with
  | nil => exact squeezes_nil drops
  | cons char chars ih =>
      obtain ⟨⟨noBlank, noQuote⟩, others⟩ := List.forall_mem_cons.1 plain
      have kept : ¬(Zone.outside = .outside ∧ drops char = true) := by
        rintro ⟨-, dropped⟩
        cases noBlank.symm.trans (spacing.only char dropped)
      have stays : Zone.outside.next char = .outside := if_neg noQuote
      intro rest
      rw [List.cons_append, squeezeFrom, if_neg kept, stays, ih others rest, List.cons_append]

theorem squeezes_char (spacing : IsSpacing drops) {char : Char}
    (noBlank : Text.isBlank char = false) (noQuote : char ≠ '"') : Squeezes drops [char] [char] :=
  squeezes_kept spacing (List.forall_mem_singleton.2 ⟨noBlank, noQuote⟩)

/-! ## Literals -/

/-- Nothing of a literal is dropped. -/
theorem squeezeFrom_literal (drops : Char → Bool) (char : Char) (rest : List Char) :
    squeezeFrom drops .literal (char :: rest) =
      char :: squeezeFrom drops (Zone.literal.next char) rest :=
  if_neg (by simp)

theorem squeezeFrom_escaped (drops : Char → Bool) (char : Char) (rest : List Char) :
    squeezeFrom drops .escaped (char :: rest) = char :: squeezeFrom drops .literal rest :=
  if_neg (by simp)

theorem next_literal {char : Char} (noQuote : char ≠ '"') (noBackslash : char ≠ '\\') :
    Zone.literal.next char = .literal :=
  (if_neg noQuote).trans (if_neg noBackslash)

theorem next_literal_hexDigit {value : Nat} (small : value < 16) :
    Zone.literal.next (hexDigit value) = .literal := by
  have each : ∀ value < 16, Zone.literal.next (hexDigit value) = .literal := by decide
  exact each value small

/-- The written form of a character is an escape of one symbol, one of a control character, or
the character itself. -/
theorem encodeChar_cases (char : Char) :
    (∃ symbol, encodeChar char = ['\\', symbol]) ∨
      (∃ high low, high < 16 ∧ low < 16 ∧
        encodeChar char = ['\\', 'u', '0', '0', hexDigit high, hexDigit low]) ∨
      encodeChar char = [char] ∧ char ≠ '"' ∧ char ≠ '\\' := by
  fun_cases encodeChar char
  case case8 =>
    exact .inr (.inl ⟨_, _, show char.toNat / 16 < 16 by omega,
      Nat.mod_lt char.toNat (show 16 > 0 by decide), rfl⟩)
  case case9 noQuote noBackslash _ _ _ _ _ _ => exact .inr (.inr ⟨rfl, noQuote, noBackslash⟩)
  all_goals exact .inl ⟨_, rfl⟩

/-- The written form of a character leads from a literal back to it. -/
theorem squeezeFrom_encodeChar (drops : Char → Bool) (char : Char) (rest : List Char) :
    squeezeFrom drops .literal (encodeChar char ++ rest) =
      encodeChar char ++ squeezeFrom drops .literal rest := by
  have opens : Zone.literal.next '\\' = .escaped := rfl
  rcases encodeChar_cases char with
    ⟨symbol, written⟩ | ⟨high, low, highSmall, lowSmall, written⟩ |
      ⟨written, noQuote, noBackslash⟩
  · simp only [written, List.cons_append, List.nil_append, squeezeFrom_literal, opens,
      squeezeFrom_escaped]
  · have zero : Zone.literal.next '0' = .literal := rfl
    simp only [written, List.cons_append, List.nil_append, squeezeFrom_literal, opens,
      squeezeFrom_escaped, zero, next_literal_hexDigit highSmall, next_literal_hexDigit lowSmall]
  · rw [written, List.singleton_append, List.singleton_append, squeezeFrom_literal,
      next_literal noQuote noBackslash]

theorem squeezes_encodeString (spacing : IsSpacing drops) (text : String) :
    Squeezes drops (encodeString text) (encodeString text) := by
  intro rest
  have noBlank : ¬(Zone.outside = .outside ∧ drops '"' = true) := by
    rintro ⟨-, dropped⟩
    cases spacing.only '"' dropped
  have opens : Zone.outside.next '"' = .literal := rfl
  have closes : Zone.literal.next '"' = .outside := rfl
  have inside : ∀ chars : List Char,
      squeezeFrom drops .literal (encodeChars chars ++ '"' :: rest) =
        encodeChars chars ++ '"' :: squeezeFrom drops .outside rest := by
    intro chars
    induction chars with
    | nil => exact (squeezeFrom_literal drops '"' rest).trans (congrArg _ (by rw [closes]))
    | cons char chars ih =>
        have written : encodeChars (char :: chars) = encodeChar char ++ encodeChars chars :=
          List.flatMap_cons
        rw [written, List.append_assoc, squeezeFrom_encodeChar, ih, List.append_assoc]
  simp only [encodeString, List.cons_append, List.append_assoc, List.nil_append]
  rw [squeezeFrom, if_neg noBlank, opens, inside]

/-! ## Values -/

theorem squeezes_word (spacing : IsSpacing drops)
    (word : text ∈ ["null".toList, "true".toList, "false".toList]) : Squeezes drops text text := by
  have plain : ∀ text ∈ ["null".toList, "true".toList, "false".toList],
      text.all (fun char => !Text.isBlank char && char != '"') = true := by decide
  apply squeezes_kept spacing
  intro char member
  simpa using List.all_eq_true.1 (plain text word) char member

theorem squeezes_signedDigits (spacing : IsSpacing drops) (number : Int) :
    Squeezes drops (Numeral.signedDigits number) (Numeral.signedDigits number) := by
  apply squeezes_kept spacing
  intro char member
  have number := allNumberChars_signedDigits number char member
  refine ⟨isBlank_eq_false_of_isNumberChar number, ?_⟩
  rintro rfl
  cases number

variable {format compact : Format}

theorem squeezes_lineBreak (spacing : IsSpacing drops) (close : compact.layout = .compact)
    (layout : Layout) (level other : Nat) :
    Squeezes drops (layout.lineBreak level) (compact.layout.lineBreak other) := by
  rw [close]
  cases layout with
  | compact | oneLine => exact squeezes_nil drops
  | indented width =>
      apply squeezes_dropped
      intro char member
      rcases List.mem_cons.1 member with rfl | blank
      · exact spacing.lineFeed
      · rw [List.eq_of_mem_replicate blank]
        exact spacing.blank

/-- A comma or colon is kept without the blank behind it. -/
theorem squeezes_mark (spacing : IsSpacing drops) {mark : Char}
    (noBlank : Text.isBlank mark = false) (noQuote : mark ≠ '"') :
    Squeezes drops [mark, ' '] [mark] := by
  have dropped : Squeezes drops [' '] [] :=
    squeezes_dropped (List.forall_mem_singleton.2 spacing.blank)
  exact (squeezes_char spacing noBlank noQuote).append dropped

theorem squeezes_separator (spacing : IsSpacing drops) (close : compact.layout = .compact)
    (layout : Layout) (level other : Nat) :
    Squeezes drops (layout.separator level) (compact.layout.separator other) := by
  have comma : Squeezes drops [','] [','] := squeezes_char spacing rfl (by decide)
  have lineBreak := squeezes_lineBreak spacing close layout level other
  rw [close] at lineBreak ⊢
  cases layout with
  | compact => exact comma
  | oneLine => exact squeezes_mark spacing rfl (by decide)
  | indented width => exact comma.append lineBreak

theorem squeezes_colon (spacing : IsSpacing drops) (close : compact.layout = .compact)
    (layout : Layout) : Squeezes drops layout.colon compact.layout.colon := by
  rw [close]
  cases layout with
  | compact => exact squeezes_char spacing rfl (by decide)
  | oneLine | indented _ => exact squeezes_mark spacing rfl (by decide)

mutual

/-- The text of a value is squeezed to its compact text. -/
theorem squeezes_write (spacing : IsSpacing drops) (close : compact.layout = .compact)
    (level other : Nat) (value : Value) (floatFree : value.FloatFree) :
    Squeezes drops (format.write level value) (compact.write other value) := by
  cases value with
  | null => exact squeezes_word spacing (.head _)
  | bool truth =>
      cases truth with
      | true => exact squeezes_word spacing (.tail _ (.head _))
      | false => exact squeezes_word spacing (.tail _ (.tail _ (.head _)))
  | int number => exact squeezes_signedDigits spacing number
  | float number => cases floatFree
  | string text => exact squeezes_encodeString spacing text
  | array items =>
      have bracket : Squeezes drops ['['] ['['] := squeezes_char spacing rfl (by decide)
      have closing : Squeezes drops [']'] [']'] := squeezes_char spacing rfl (by decide)
      cases items with
      | nil => exact bracket.append closing
      | cons item items =>
          have lineBreak := squeezes_lineBreak spacing close format.layout
          have first := squeezes_write spacing close (level + 1) (other + 1) item floatFree.1
          have behind := squeezes_writeItems spacing close (level + 1) (other + 1) items
            floatFree.2
          exact (bracket.append (lineBreak _ _)).append
            (first.append (behind.append ((lineBreak _ _).append closing)))
  | object fields =>
      have brace : Squeezes drops ['\x7b'] ['\x7b'] := squeezes_char spacing rfl (by decide)
      have closing : Squeezes drops ['\x7d'] ['\x7d'] := squeezes_char spacing rfl (by decide)
      cases fields with
      | nil => exact brace.append closing
      | cons field fields =>
          obtain ⟨name, item⟩ := field
          have lineBreak := squeezes_lineBreak spacing close format.layout
          have first := squeezes_write spacing close (level + 1) (other + 1) item floatFree.1
          have behind := squeezes_writeFields spacing close (level + 1) (other + 1) fields
            floatFree.2
          exact (brace.append (lineBreak _ _)).append
            ((squeezes_encodeString spacing name).append
              ((squeezes_colon spacing close format.layout).append
                (first.append (behind.append ((lineBreak _ _).append closing)))))
termination_by structural value

/-- So is the text of the items behind the first one. -/
theorem squeezes_writeItems (spacing : IsSpacing drops) (close : compact.layout = .compact)
    (level other : Nat) (items : List Value) (floatFree : Value.FloatFreeItems items) :
    Squeezes drops (format.writeItems level items) (compact.writeItems other items) := by
  cases items with
  | nil => exact squeezes_nil drops
  | cons item items =>
      have first := squeezes_write spacing close level other item floatFree.1
      have behind := squeezes_writeItems spacing close level other items floatFree.2
      exact (squeezes_separator spacing close format.layout level other).append
        (first.append behind)
termination_by structural items

/-- So is the text of the fields behind the first one. -/
theorem squeezes_writeFields (spacing : IsSpacing drops) (close : compact.layout = .compact)
    (level other : Nat) (fields : List (String × Value))
    (floatFree : Value.FloatFreeFields fields) :
    Squeezes drops (format.writeFields level fields) (compact.writeFields other fields) := by
  cases fields with
  | nil => exact squeezes_nil drops
  | cons field fields =>
      obtain ⟨name, item⟩ := field
      have first := squeezes_write spacing close level other item floatFree.1
      have behind := squeezes_writeFields spacing close level other fields floatFree.2
      exact (squeezes_separator spacing close format.layout level other).append
        ((squeezes_encodeString spacing name).append
          ((squeezes_colon spacing close format.layout).append (first.append behind)))
termination_by structural fields

end

/-- A whole text is squeezed to the compact one. -/
theorem squeezeFrom_write (spacing : IsSpacing drops) (close : compact.layout = .compact)
    (format : Format) {value : Value} (floatFree : value.FloatFree) :
    squeezeFrom drops .outside (format.write 0 value) = compact.write 0 value := by
  have piece : Squeezes drops (format.write 0 value) (compact.write 0 value) :=
    squeezes_write spacing close 0 0 value floatFree
  have squeezed := piece []
  rw [List.append_nil] at squeezed
  exact squeezed.trans (List.append_nil _)

/-- The texts of a value without doubles agree but for their spacing.  With any indentation the
text is the compact one when it has lost its blanks and line breaks outside of literals, and
perhaps other blanks if the test passes them; the compact text has no blanks there at all; and
it is the same in every format that writes compactly. -/
theorem squeeze_dump {value : Value} (floatFree : value.FloatFree) (spacing : IsSpacing drops)
    (indent : Int) :
    squeeze drops (dump value indent) = dump value 0 ∧
      (∀ char ∈ outside (dump value 0), Text.isBlank char = false) ∧
      ∀ format : Format, format.layout = .compact →
        String.ofList (format.write 0 value) = dump value 0 := by
  have close : (Format.choose 0 value).layout = .compact := by
    rw [Format.choose, if_pos rfl]
    split <;> rfl
  refine ⟨?_, ?_, ?_⟩
  · rw [squeeze, dump, String.toList_ofList, squeezeFrom_write spacing close _ floatFree, dump]
  · have blanks : IsSpacing Text.isBlank := ⟨rfl, rfl, fun _ passes => passes⟩
    rw [outside, dump, String.toList_ofList]
    exact drops_eq_false_of_squeezeFrom (squeezeFrom_write blanks close _ floatFree)
  · intro format alsoClose
    rw [dump, ← squeezeFrom_write spacing alsoClose (.choose 0 value) floatFree,
      squeezeFrom_write spacing close _ floatFree]

/-- An object with an integer beyond 64 bits, empty brackets, and literals that hold blanks,
quotation marks and backslashes.  Blanks and line feeds are dropped, and tabs would be. -/
theorem squeeze_dump_with_quotes :
    let value : Value := .object [("a \" :", .array [.int 18446744073709551616, .object [],
      .string "\\\" \n"]), ("", .array [])]
    let drops (char : Char) : Bool := char = ' ' ∨ char = '\n' ∨ char = '\t'
    value.FloatFree ∧ IsSpacing drops ∧
      dump value 0 =
        "\x7b\"a \\\" :\":[18446744073709551616,\x7b\x7d,\"\\\\\\\" \\n\"],\"\":[]\x7d" ∧
      squeeze drops (dump value 3) = dump value 0 ∧
      squeeze drops (dump value (-1)) = dump value 0 ∧
      String.ofList (Format.compact.write 0 value) = dump value 0 := by
  intro value drops
  have floatFree : value.FloatFree :=
    ⟨⟨trivial, trivial, trivial, trivial⟩, trivial, trivial⟩
  have spacing : IsSpacing drops := by
    refine ⟨rfl, rfl, ?_⟩
    intro char passes
    rcases of_decide_eq_true passes with rfl | rfl | rfl <;> rfl
  obtain ⟨lines, -, formats⟩ := squeeze_dump floatFree spacing 3
  exact ⟨floatFree, spacing, by decide +kernel, lines, (squeeze_dump floatFree spacing (-1)).1,
    formats .compact rfl⟩

end Json

end PageTree
