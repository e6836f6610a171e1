/-!
# JSON string literals

Writing puts a backslash in front of the quotation mark and of the backslash,
and writes control characters as escapes; every other character stands for
itself.  Reading accepts all escapes of the format, joins two surrogate escapes
into the one character they name, and refuses a raw control character, an
unknown escape and a surrogate escape that has no partner.

The reader takes the closing quotation mark as a parameter, since the loose dialect
also reads literals between apostrophes.
-/

namespace PageTree.Json

/-- A hexadecimal digit, lower case. -/
def hexDigit (value : Nat) : Char :=
  if value < 10 then Char.ofNat (48 + value) else Char.ofNat (87 + value)

/-- The value of a hexadecimal digit of either case. -/
def hexValue? (char : Char) : Option Nat :=
  let code := char.toNat
  if 48 ≤ code ∧ code ≤ 57 then some (code - 48)
  else if 97 ≤ code ∧ code ≤ 102 then some (code - 87)
  else if 65 ≤ code ∧ code ≤ 70 then some (code - 55)
  else none

/-- The written form of one character inside a literal. -/
def encodeChar (char : Char) : List Char :=
  if char = '"' then ['\\', '"']
  else if char = '\\' then ['\\', '\\']
  else if char = '\n' then ['\\', 'n']
  else if char = '\r' then ['\\', 'r']
  else if char = '\t' then ['\\', 't']
  else if char = '\x08' then ['\\', 'b']
  else if char = '\x0c' then ['\\', 'f']
  else if char.toNat < 0x20 then
    ['\\', 'u', '0', '0', hexDigit (char.toNat / 16), hexDigit (char.toNat % 16)]
  else [char]

/-- The written form of a text without the quotation marks. -/
def encodeChars (chars : List Char) : List Char :=
  chars.flatMap encodeChar

/-- A text as a literal. -/
def encodeString (text : String) : List Char :=
  '"' :: encodeChars text.toList ++ ['"']

/-- A code unit from four hexadecimal digits, and what follows them. -/
def takeUnit? : List Char → Option (Nat × List Char)
  | first :: second :: third :: fourth :: rest =>
      match hexValue? first, hexValue? second, hexValue? third, hexValue? fourth with
      | some a, some b, some c, some d =>
          some (((a * 16 + b) * 16 + c) * 16 + d, rest)
      | _, _, _, _ => none
  | _ => none

/-- Code units that stand for the first half of a character. -/
def isLeadingUnit (code : Nat) : Bool :=
  0xd800 ≤ code && code ≤ 0xdbff

/-- Code units that stand for the second half of a character. -/
def isTrailingUnit (code : Nat) : Bool :=
  0xdc00 ≤ code && code ≤ 0xdfff

/-- The character behind `\u`, and what follows it. -/
def takeUnitEscape? (input : List Char) : Option (Char × List Char) :=
  match takeUnit? input with
  | none => none
  | some (code, rest) =>
      if isLeadingUnit code then
        match rest with
        | '\\' :: 'u' :: more =>
            match takeUnit? more with
            | none => none
            | some (trailing, rest) =>
                if isTrailingUnit trailing then
                  some (Char.ofNat
                    (0x10000 + (code - 0xd800) * 0x400 + (trailing - 0xdc00)), rest)
                else none
        | _ => none
      else if isTrailingUnit code then none
      else some (Char.ofNat code, rest)

/-- The character behind a backslash, and what follows it. -/
def takeEscape? (quote : Char) : List Char → Option (Char × List Char)
  | '"' :: rest => some ('"', rest)
  | '\\' :: rest => some ('\\', rest)
  | '/' :: rest => some ('/', rest)
  | 'b' :: rest => some ('\x08', rest)
  | 'f' :: rest => some ('\x0c', rest)
  | 'n' :: rest => some ('\n', rest)
  | 'r' :: rest => some ('\r', rest)
  | 't' :: rest => some ('\t', rest)
  | 'u' :: rest => takeUnitEscape? rest
  | char :: rest => if char = quote then some (char, rest) else none
  | [] => none

/-- One character of a literal, plain or escaped, and what follows it. -/
def takeChar? (quote : Char) : List Char → Option (Char × List Char)
  | '\\' :: rest => takeEscape? quote rest
  | char :: rest => if char.toNat < 0x20 then none else some (char, rest)
  | [] => none

theorem takeUnit?_shorter {input rest : List Char} {code : Nat}
    (taken : takeUnit? input = some (code, rest)) : rest.length < input.length := by
  unfold takeUnit? at taken
  split at taken
  · split at taken
    · simp only [Option.some.injEq, Prod.mk.injEq] at taken
      simp only [← taken.2, List.length_cons]
      omega
    · simp at taken
  · simp at taken

theorem takeUnitEscape?_shorter {input rest : List Char} {char : Char}
    (taken : takeUnitEscape? input = some (char, rest)) :
    rest.length < input.length := by
  unfold takeUnitEscape? at taken
  split at taken
  · simp at taken
  · rename_i code after first
    have firstShorter := takeUnit?_shorter first
    split at taken
    · split at taken
      · split at taken
        · simp at taken
        · rename_i second
          have secondShorter := takeUnit?_shorter second
          split at taken
          · simp only [Option.some.injEq, Prod.mk.injEq] at taken
            simp only [List.length_cons] at firstShorter
            simp only [← taken.2]
            omega
          · simp at taken
      · simp at taken
    · split at taken
      · simp at taken
      · simp only [Option.some.injEq, Prod.mk.injEq] at taken
        simp only [← taken.2]
        omega

theorem takeEscape?_shorter {quote : Char} {input rest : List Char} {char : Char}
    (taken : takeEscape? quote input = some (char, rest)) :
    rest.length < input.length := by
  unfold takeEscape? at taken
  split at taken
  case h_9 =>
    have := takeUnitEscape?_shorter taken
    simp only [List.length_cons]
    omega
  case h_10 =>
    split at taken
    · simp only [Option.some.injEq, Prod.mk.injEq] at taken
      simp [← taken.2]
    · simp at taken
  case h_11 => simp at taken
  all_goals
    simp only [Option.some.injEq, Prod.mk.injEq] at taken
    simp [← taken.2]

theorem takeChar?_shorter {quote : Char} {input rest : List Char} {char : Char}
    (taken : takeChar? quote input = some (char, rest)) :
    rest.length < input.length := by
  unfold takeChar? at taken
  split at taken
  · have := takeEscape?_shorter taken
    simp only [List.length_cons]
    omega
  · split at taken
    · simp at taken
    · simp only [Option.some.injEq, Prod.mk.injEq] at taken
      simp [← taken.2]
  · simp at taken

/-- The characters of a literal up to its closing mark, and what follows it. -/
def takeString? (quote : Char) (input : List Char) :
    Option (List Char × List Char) :=
  match input with
  | [] => none
  | char :: rest =>
      if char = quote then some ([], rest)
      else
        match _taken : takeChar? quote (char :: rest) with
        | none => none
        | some (first, rest) =>
            match takeString? quote rest with
            | none => none
            | some (others, rest) => some (first :: others, rest)
termination_by input.length
decreasing_by exact takeChar?_shorter _taken

theorem takeString?_shorter {quote : Char} {input rest : List Char}
    {chars : List Char} (taken : takeString? quote input = some (chars, rest)) :
    rest.length < input.length := by
  fun_induction takeString? quote input generalizing chars rest with
  | case1 => simp at taken
  | case2 => simp_all
  | case3 => simp at taken
  | case4 => simp at taken
  | case5 char tail different first after charTaken others end' stringTaken ih =>
      simp only [Option.some.injEq, Prod.mk.injEq] at taken
      have charShorter := takeChar?_shorter charTaken
      have stringShorter := ih stringTaken
      rw [← taken.2]
      omega

example : takeString? '"' "a\\ud83d\\ude00\\n\" rest".toList =
    some ("a😀\n".toList, " rest".toList) := by decide +kernel
example : takeString? '"' "\\ud800\"".toList = none := by decide +kernel
example : encodeString "a\"\\\n\x01/" = "\"a\\\"\\\\\\n\\u0001/\"".toList := by
  decide +kernel

end PageTree.Json
