import PageTree.Renderer
import PageTree.Proofs.Digits

/-!
# Keys

The key of a component is its type, an underscore, and its path with dots between
the indices.  A type may hold underscores, dots and digits itself; the path holds
no underscore, so the last underscore of a key ends the type.  What stands behind
it is split at the dots and read as integers (`readKey?_identityKey`), so a key
determines both parts (`identityKey_inj`).

The keys of labels and of the page stand apart from these.  They end in a letter,
which no path does.
-/

namespace PageTree

open Numeral

variable {type otherType key : String} {path otherPath : Path}

/-! ## The characters of a key -/

/-- The characters of a path: its integers with dots between them. -/
def dotted (path : Path) : List Char :=
  ['.'].intercalate (path.map signedDigits)

theorem toList_identityKey (type : String) (path : Path) :
    (identityKey type path).toList = type.toList ++ '_' :: dotted path := by
  simp [identityKey, dotted, Function.comp_def, Numeral.text, String.toList_intercalate]

@[simp] theorem dotted_singleton (index : Int) : dotted [index] = signedDigits index := by
  simp [dotted]

@[simp] theorem dotted_cons_cons (index next : Int) (path : Path) :
    dotted (index :: next :: path) = signedDigits index ++ '.' :: dotted (next :: path) := by
  simp [dotted, List.intercalate_cons_cons]

theorem dotted_ne_nil (index : Int) (path : Path) : dotted (index :: path) ≠ [] := by
  cases path with
  | nil =>
      rw [dotted_singleton]
      exact signedDigits_ne_nil index
  | cons next path => simp

/-- A path has no characters but digits, minus signs and dots. -/
theorem mem_dotted {char : Char} (member : char ∈ dotted path) :
    isDigit char = true ∨ char = '-' ∨ char = '.' := by
  induction path with
  | nil => cases member
  | cons index path ih =>
      cases path with
      | nil =>
          rw [dotted_singleton] at member
          exact (isDigit_or_minus_of_mem member).imp_right .inl
      | cons next path =>
          rw [dotted_cons_cons, List.mem_append, List.mem_cons] at member
          rcases member with digits | dot | later
          · exact (isDigit_or_minus_of_mem digits).imp_right .inl
          · exact .inr (.inr dot)
          · exact ih later

theorem underscore_notMem_dotted (path : Path) : '_' ∉ dotted path := by
  intro member
  exact absurd (mem_dotted member) (by decide)

/-- A path in the usual decimal numbers, with dots between them. -/
def dottedDecimals (path : Path) : String :=
  ".".intercalate (path.map toString)

theorem toList_dottedDecimals (path : Path) : (dottedDecimals path).toList = dotted path := by
  have usual : path.map toString = path.map Numeral.text :=
    List.map_congr_left fun index _ => (text_eq_toString index).symm
  simp [dottedDecimals, dotted, usual, Function.comp_def, Numeral.text, String.toList_intercalate]

/-! ## Splitting at the last mark -/

namespace Text

variable {mark : Char} {chars before after : List Char}

/-- The characters before the last mark and those behind it, if there is a mark. -/
def splitLast? (mark : Char) : List Char → Option (List Char × List Char)
  | [] => none
  | char :: rest =>
      match splitLast? mark rest with
      | some (before, after) => some (char :: before, after)
      | none => if char = mark then some ([], rest) else none

theorem splitLast?_eq_none_iff : splitLast? mark chars = none ↔ mark ∉ chars := by
  induction chars with
  | nil => simp [splitLast?]
  | cons char rest ih =>
      rw [splitLast?, List.mem_cons, not_or, ← ih, eq_comm (a := mark)]
      cases splitLast? mark rest with
      | some parts => simp
      | none => simp

/-- The last mark is the one behind which there is no other. -/
theorem splitLast?_eq_some_iff :
    splitLast? mark chars = some (before, after) ↔
      chars = before ++ mark :: after ∧ mark ∉ after := by
  constructor
  · intro split
    induction chars generalizing before with
    | nil => cases split
    | cons char rest ih =>
        rw [splitLast?] at split
        -- A mark further on comes first: only without one can the first character count.
        cases further : splitLast? mark rest with
        | some parts =>
            rw [further] at split
            obtain ⟨rfl, rfl⟩ := Prod.mk.inj (Option.some.inj split)
            obtain ⟨joined, absent⟩ := ih further
            exact ⟨congrArg (char :: ·) joined, absent⟩
        | none =>
            simp only [further, Option.ite_none_right_eq_some, Option.some.injEq,
              Prod.mk.injEq] at split
            obtain ⟨rfl, rfl, rfl⟩ := split
            exact ⟨rfl, splitLast?_eq_none_iff.1 further⟩
  · rintro ⟨rfl, absent⟩
    induction before with
    | nil => simp [splitLast?, splitLast?_eq_none_iff.2 absent]
    | cons char before ih => simp [splitLast?, ih]

end Text

/-! ## Reading a key -/

/-- The path that characters show: none of its integers is empty, so no characters are the
empty path. -/
def readPath (chars : List Char) : Path :=
  if chars = [] then [] else (chars.splitOn '.').map signedValue

/-- A path reads back. -/
theorem readPath_dotted (path : Path) : readPath (dotted path) = path := by
  cases path with
  | nil => rfl
  | cons index path =>
      -- Splitting undoes joining here only: no text at all would split into one empty piece.
      have dotless : ∀ chars ∈ (index :: path).map signedDigits, '.' ∉ chars := by
        intro chars member dot
        obtain ⟨number, -, rfl⟩ := List.mem_map.1 member
        exact absurd (isDigit_or_minus_of_mem dot) (by decide)
      have pieces : (dotted (index :: path)).splitOn '.' = (index :: path).map signedDigits :=
        List.splitOn_intercalate '.' dotless (by simp)
      rw [readPath, if_neg (dotted_ne_nil index path), pieces, List.map_map]
      exact List.map_id'' signedValue_signedDigits _

/-- The type and the path that a key shows, if it has an underscore. -/
def readKey? (key : String) : Option (String × Path) :=
  (Text.splitLast? '_' key.toList).map fun (before, after) =>
    (String.ofList before, readPath after)

theorem readKey?_identityKey (type : String) (path : Path) :
    readKey? (identityKey type path) = some (type, path) := by
  have split : Text.splitLast? '_' (identityKey type path).toList =
      some (type.toList, dotted path) :=
    Text.splitLast?_eq_some_iff.2
      ⟨toList_identityKey type path, underscore_notMem_dotted path⟩
  simp [readKey?, split, readPath_dotted]

/-- A key determines the type and the path. -/
theorem identityKey_inj :
    identityKey type path = identityKey otherType otherPath ↔
      type = otherType ∧ path = otherPath := by
  constructor
  · intro same
    have read := readKey?_identityKey type path
    rw [same, readKey?_identityKey] at read
    obtain ⟨types, paths⟩ := Prod.mk.inj (Option.some.inj read)
    exact ⟨types.symm, paths.symm⟩
  · rintro ⟨rfl, rfl⟩
    rfl

/-- A key is taken apart at its last underscore, which has the type in front and the path
in decimal behind it; no other text comes apart so.  The path reads back, and keys are the
same only for the same type and the same path. -/
theorem identityKey_comes_apart (type : String) (path : Path) :
    (∀ key : String,
      Text.splitLast? '_' key.toList = some (type.toList, (dottedDecimals path).toList) ↔
        key = identityKey type path) ∧
      readKey? (identityKey type path) = some (type, path) ∧
      ∀ otherType otherPath,
        identityKey type path = identityKey otherType otherPath ↔
          type = otherType ∧ path = otherPath := by
  refine ⟨fun key => ?_, readKey?_identityKey type path, fun _ _ => identityKey_inj⟩
  rw [Text.splitLast?_eq_some_iff, toList_dottedDecimals, ← toList_identityKey,
    String.toList_inj]
  exact and_iff_left (underscore_notMem_dotted path)

example : readKey? "page_0/label_1.-20" = some ("page_0/label", [1, -20]) := by decide +kernel

/-! ## Keys that stand apart -/

/-- The last character of a key is no letter. -/
theorem getLast?_identityKey (type : String) (path : Path) :
    ∃ char, (identityKey type path).toList.getLast? = some char ∧
      (char = '_' ∨ isDigit char = true ∨ char = '-' ∨ char = '.') := by
  refine ⟨('_' :: dotted path).getLast (List.cons_ne_nil _ _), ?_, ?_⟩
  · rw [toList_identityKey, List.getLast?_append,
      List.getLast?_eq_some_getLast (List.cons_ne_nil '_' (dotted path)), Option.some_or]
  · rcases List.mem_cons.1 (List.getLast_mem (List.cons_ne_nil '_' (dotted path))) with
      underscore | inPath
    · exact .inl underscore
    · exact .inr (mem_dotted inPath)

/-- A text that ends in a letter is no key of a component. -/
theorem identityKey_ne_of_getLast? {other : String} {letter : Char} (type : String)
    (path : Path) (ends : other.toList.getLast? = some letter)
    (isLetter : ¬(letter = '_' ∨ isDigit letter = true ∨ letter = '-' ∨ letter = '.')) :
    identityKey type path ≠ other := by
  rintro rfl
  obtain ⟨char, last, shape⟩ := getLast?_identityKey type path
  obtain rfl : char = letter := Option.some.inj (last.symm.trans ends)
  exact isLetter shape

theorem labelKey_injective : Function.Injective labelKey := by
  intro left right same
  have chars := congrArg String.toList same
  exact String.toList_injective (by simpa [labelKey] using chars)

theorem getLast?_labelKey (key : String) : (labelKey key).toList.getLast? = some 'l' := by
  simp [labelKey]

theorem getLast?_pageKey : Renderer.pageKey.toList.getLast? = some 'e' := by
  decide

theorem identityKey_ne_labelKey (type : String) (path : Path) (key : String) :
    identityKey type path ≠ labelKey key :=
  identityKey_ne_of_getLast? type path (getLast?_labelKey key) (by decide)

theorem identityKey_ne_pageKey (type : String) (path : Path) :
    identityKey type path ≠ Renderer.pageKey :=
  identityKey_ne_of_getLast? type path getLast?_pageKey (by decide)

theorem labelKey_ne_pageKey (key : String) : labelKey key ≠ Renderer.pageKey := by
  intro same
  have letter := getLast?_labelKey key
  rw [same, getLast?_pageKey] at letter
  exact absurd letter (by decide)

/-! ## Keys of labels -/

/-- What the keys of labels end in. -/
def labelEnding : List Char := "/label".toList

/-- Whether a key is that of a label. -/
def isLabelKey (key : String) : Bool :=
  labelEnding.isSuffixOf key.toList

/-- The key without the ending of labels: for the key of a label, the key of the
element that it belongs to. -/
def ownerKey (key : String) : String :=
  if isLabelKey key then
    String.ofList (key.toList.take (key.toList.length - labelEnding.length))
  else key

/-- Whether an element is a label, by its key. -/
def Element.isLabel (element : Element) : Bool :=
  isLabelKey element.key

theorem toList_labelKey (key : String) :
    (labelKey key).toList = key.toList ++ labelEnding :=
  String.toList_append

theorem isLabelKey_iff : isLabelKey key = true ↔ ∃ owner, key = labelKey owner := by
  unfold isLabelKey
  rw [List.isSuffixOf_iff_suffix]
  constructor
  · rintro ⟨owner, split⟩
    refine ⟨String.ofList owner, String.toList_injective ?_⟩
    rw [toList_labelKey, String.toList_ofList, split]
  · rintro ⟨owner, rfl⟩
    exact ⟨owner.toList, (toList_labelKey owner).symm⟩

@[simp] theorem isLabelKey_labelKey (key : String) : isLabelKey (labelKey key) = true :=
  isLabelKey_iff.2 ⟨key, rfl⟩

@[simp] theorem isLabelKey_identityKey (type : String) (path : Path) :
    isLabelKey (identityKey type path) = false := by
  rw [← Bool.not_eq_true, isLabelKey_iff]
  rintro ⟨owner, same⟩
  exact identityKey_ne_labelKey type path owner same

@[simp] theorem ownerKey_labelKey (key : String) : ownerKey (labelKey key) = key := by
  rw [ownerKey, if_pos (isLabelKey_labelKey key), toList_labelKey, List.length_append,
    Nat.add_sub_cancel, List.take_left, String.ofList_toList]

@[simp] theorem ownerKey_identityKey (type : String) (path : Path) :
    ownerKey (identityKey type path) = identityKey type path := by
  rw [ownerKey, isLabelKey_identityKey]
  rfl

end PageTree
