import PageTree.Proofs.Json.RoundTrip

/-!
# Blanks and fences around a document

A text of the strict format may stand between blanks, and it may stand in a fence with
prose behind it: it is read as if it stood alone (`Document.read_surrounded`).

There are two reasons.  Trimming does not see blanks that are put around a text
(`Text.trim_surrounded`), so a text of the format is read at the first attempt, whatever
fences its strings hold.  A text that opens with a fence is no text of the format, so the
first attempt fails there; the second reads what stands between the opening and the last
fence, and that is the closing one, since the prose behind it has no backtick
(`Text.unfence_fenced`).
-/

namespace PageTree

namespace Text

variable {before after front back inside prose : List Char} {char : Char}

/-! ## Trimming -/

/-- Nothing but blanks. -/
def AllBlank (chars : List Char) : Prop :=
  ∀ char ∈ chars, isBlank char = true

/-- Blanks behind a text are dropped with those at its end. -/
theorem trimEnd_append (chars : List Char) (blank : AllBlank after) :
    trimEnd (chars ++ after) = trimEnd chars := by
  have dropped : ∀ char ∈ after.reverse, isBlank char = true :=
    fun char member => blank char (List.mem_reverse.1 member)
  rw [trimEnd, trimEndWhere, List.reverse_append, List.dropWhile_append_of_pos dropped]
  rfl

/-- What stands in front of a character that is no blank is kept. -/
theorem trimEnd_append_cons (front back : List Char) (solid : isBlank char = false) :
    trimEnd (front ++ char :: back) = front ++ char :: trimEnd back := by
  have kept : (char :: front.reverse).dropWhile isBlank = char :: front.reverse :=
    List.dropWhile_cons_of_neg (Bool.eq_false_iff.1 solid)
  have reversed : (front ++ char :: back).reverse = back.reverse ++ char :: front.reverse := by
    simp
  simp only [trimEnd, trimEndWhere, reversed, List.dropWhile_append, kept]
  cases back.reverse.dropWhile isBlank <;> simp

theorem mem_of_mem_trimEnd (member : char ∈ trimEnd back) : char ∈ back := by
  rw [trimEnd, trimEndWhere, List.mem_reverse] at member
  exact List.mem_reverse.1 ((List.dropWhile_suffix isBlank).subset member)

/-- Blanks around a text are dropped with those at its ends. -/
theorem trim_surrounded (chars : List Char) (blankBefore : AllBlank before)
    (blankAfter : AllBlank after) : trim (before ++ chars ++ after) = trim chars := by
  have begins : (before ++ chars ++ after).dropWhile isBlank =
      (chars ++ after).dropWhile isBlank := by
    rw [List.append_assoc, List.dropWhile_append_of_pos blankBefore]
  rw [trim, trimWhere, begins, List.dropWhile_append]
  split
  · rename_i nothing
    have dropped : (after ++ []).dropWhile isBlank = [] :=
      List.dropWhile_append_of_pos blankAfter
    rw [List.append_nil] at dropped
    rw [trim, trimWhere, dropped, List.isEmpty_iff.1 nothing]
  · exact trimEnd_append _ blankAfter

/-- A text that begins with no blank is trimmed at its end only. -/
theorem trim_cons (back : List Char) (solid : isBlank char = false) :
    trim (char :: back) = char :: trimEnd back := by
  rw [trim, trimWhere, List.dropWhile_cons_of_neg (Bool.eq_false_iff.1 solid)]
  exact trimEnd_append_cons [] back solid

/-! ## The last fence -/

/-- Where no fence begins, the last one is found further on, if at all. -/
theorem beforeLastFence?_cons_eq_none (notHere : fence.isPrefixOf (char :: back) = false)
    (notBehind : beforeLastFence? back = none) : beforeLastFence? (char :: back) = none := by
  simp only [beforeLastFence?, notBehind, notHere, Bool.false_eq_true, if_false]

/-- There is no fence without a backtick. -/
theorem beforeLastFence?_eq_none (noMark : '`' ∉ back) : beforeLastFence? back = none := by
  induction back with
  | nil => rfl
  | cons char back ih =>
      rw [List.mem_cons, not_or] at noMark
      apply beforeLastFence?_cons_eq_none
      · simp [fence, List.isPrefixOf, noMark.1]
      · exact ih noMark.2

/-- The last fence is one behind which there is no backtick. -/
theorem beforeLastFence?_append (front : List Char) (noMark : '`' ∉ prose) :
    beforeLastFence? (front ++ fence ++ prose) = some front := by
  induction front with
  | cons char front ih =>
      rw [List.append_assoc, List.cons_append, beforeLastFence?, ← List.append_assoc, ih]
  | nil =>
      cases prose with
      | nil => rfl
      | cons char prose =>
          -- fewer than three backticks in front of the prose are no fence
          have different : '`' ≠ char := fun same => noMark (same ▸ List.mem_cons_self)
          have one : beforeLastFence? ('`' :: char :: prose) = none :=
            beforeLastFence?_cons_eq_none (by simp [fence, List.isPrefixOf, different])
              (beforeLastFence?_eq_none noMark)
          have two : beforeLastFence? ('`' :: '`' :: char :: prose) = none :=
            beforeLastFence?_cons_eq_none (by simp [fence, List.isPrefixOf, different]) one
          have three : [] ++ fence ++ char :: prose = '`' :: '`' :: '`' :: char :: prose := rfl
          rw [three, beforeLastFence?, two]
          rfl

/-- The text in a fence is what stands between the opening and the last fence.  Behind a
bare opening it must not look like the name of the format. -/
theorem unfence_fenced {opening : List Char} (noMark : '`' ∉ prose)
    (opens : opening = namedFence ∨ opening = fence ∧ inside.head? ≠ some 'j') :
    unfence (opening ++ inside ++ fence ++ prose) = trim inside := by
  have found := beforeLastFence?_append (opening ++ inside) noMark
  have opened : fence.isPrefixOf (opening ++ inside ++ fence ++ prose) = true := by
    rcases opens with rfl | ⟨rfl, -⟩ <;> rfl
  have chosen : (if namedFence.isPrefixOf (opening ++ inside ++ fence ++ prose) then namedFence
      else fence) = opening := by
    rcases opens with rfl | ⟨rfl, unnamed⟩
    · rfl
    · apply if_neg
      cases inside with
      | nil => simp [fence, namedFence, List.isPrefixOf]
      | cons char inside =>
          have different : 'j' ≠ char := fun same => unnamed (congrArg some same.symm)
          simp [fence, namedFence, List.isPrefixOf, different]
  have inBounds : ¬(opening ++ inside).length < opening.length := by simp
  simp only [unfence, opened, chosen, found, if_true, if_neg inBounds, List.drop_left]

/-- Trimming leaves a fence as it is, but for blanks at the end of the prose. -/
theorem trim_fenced {opening : List Char} (blankBefore : AllBlank before)
    (opens : opening = namedFence ∨ opening = fence) :
    trim (before ++ (opening ++ inside ++ fence ++ prose)) =
      opening ++ inside ++ fence ++ trimEnd prose := by
  have surrounded := trim_surrounded (opening ++ inside ++ fence ++ prose) blankBefore
    (List.forall_mem_nil _)
  obtain ⟨opening, rfl⟩ : ∃ others, opening = '`' :: others := by
    rcases opens with rfl | rfl
    · exact ⟨_, rfl⟩
    · exact ⟨_, rfl⟩
  have closed : ∀ behind : List Char, '`' :: opening ++ inside ++ fence ++ behind =
      '`' :: (opening ++ inside ++ ['`', '`'] ++ '`' :: behind) := by
    simp [fence]
  rw [List.append_nil] at surrounded
  rw [surrounded, closed, closed, trim_cons _ rfl, trimEnd_append_cons _ _ rfl]

end Text

/-! ## Reading -/

namespace Json

/-- No text of the strict format begins with a character that begins no token. -/
theorem read?_cons_eq_none {char : Char} {chars : List Char} (noSpace : isSpace char = false)
    (noToken : takeToken? .strict (char :: chars) = none) : read? (char :: chars) = none := by
  rw [read?, tokens?_of_not_isSpace noSpace, noToken]
  rfl

theorem read?_backtick (chars : List Char) : read? ('`' :: chars) = none :=
  read?_cons_eq_none rfl rfl

/-- A text of the strict format does not begin like the name of the format, with blanks around
it or without. -/
theorem head?_ne_of_read?_trim {chars : List Char} {value : Value}
    (accepted : read? (Text.trim chars) = some value) : chars.head? ≠ some 'j' := by
  intro begins
  cases chars with
  | nil => cases begins
  | cons char chars =>
      cases begins
      have nothing : read? ('j' :: Text.trimEnd chars) = none := read?_cons_eq_none rfl rfl
      rw [Text.trim_cons chars rfl] at accepted
      cases nothing.symm.trans accepted

end Json

namespace Document

open Json Text

/-- Blanks and fences around a text of the strict format do not matter.  The text is read
as the value that it denotes, with any blanks around it, and also when it stands in a fence,
with or without the name of the format, among blanks, and with prose behind it that has no
backtick.  Its own strings may hold any number of fences, and it does not matter whether
repairs are permitted, nor how they would be made. -/
theorem read_surrounded (mend : Mender) (text before gap after opening prose : String)
    (value : Value) (repair : Bool) (accepted : read? (trim text.toList) = some value)
    (blankBefore : AllBlank before.toList) (blankGap : AllBlank gap.toList)
    (blankAfter : AllBlank after.toList) (opens : opening ∈ ["```json", "```"])
    (noMark : '`' ∉ prose.toList) :
    Document.read mend (before ++ text ++ gap) repair = .ok value ∧
      Document.read mend (before ++ opening ++ gap ++ text ++ after ++ "```" ++ prose)
        repair = .ok value := by
  constructor
  · apply read_of_readStrict?
    rw [String.toList_append, String.toList_append, trim_surrounded _ blankBefore blankGap,
      readStrict?, accepted]
  · have inside : trim (gap.toList ++ text.toList ++ after.toList) = trim text.toList :=
      trim_surrounded _ blankGap blankAfter
    have unnamed : (gap.toList ++ text.toList ++ after.toList).head? ≠ some 'j' := by
      rw [← inside] at accepted
      exact head?_ne_of_read?_trim accepted
    have isOpening : opening.toList = namedFence ∨ opening.toList = fence := by
      simp only [List.mem_cons, List.not_mem_nil, or_false] at opens
      rcases opens with rfl | rfl
      · exact .inl rfl
      · exact .inr rfl
    have unfenced := unfence_fenced (fun member => noMark (mem_of_mem_trimEnd member))
      (isOpening.imp_right fun bare => ⟨bare, unnamed⟩)
    have chars : (before ++ opening ++ gap ++ text ++ after ++ "```" ++ prose).toList =
        before.toList ++ (opening.toList ++ (gap.toList ++ text.toList ++ after.toList) ++ fence ++
          prose.toList) := by
      simp [fence]
    have unread : read? (opening.toList ++ (gap.toList ++ text.toList ++ after.toList) ++ fence ++
        trimEnd prose.toList) = none := by
      rcases isOpening with named | bare
      · rw [named]
        exact read?_backtick _
      · rw [bare]
        exact read?_backtick _
    apply read_of_readStrict?
    rw [chars, trim_fenced blankBefore isOpening, readStrict?, unread, unfenced, inside]
    exact accepted

/-- A text whose own strings hold fences, in a bare fence with prose behind it. -/
theorem read_surrounded_fence_in_string :
    let text := "\n\x7b\"```\": [\"```json 1 ```\", 2]\x7d"
    let value : Value := .object [("```", .array [.string "```json 1 ```", .int 2])]
    read? (trim text.toList) = some value ∧
      Document.read .none ("\u3000" ++ text ++ "\u2028") true = .ok value ∧
      Document.read .none
        ("\u3000" ++ "```" ++ "\u2028" ++ text ++ "\x1c" ++ "```" ++ " as you see") true =
          .ok value := by
  intro text value
  have written : trim text.toList = Format.oneLine.write 0 value := by decide +kernel
  have accepted : read? (trim text.toList) = some value := by
    rw [written]
    exact read?_write _ ⟨by decide, ⟨trivial, trivial, trivial⟩, trivial⟩
      ⟨⟨trivial, trivial, trivial⟩, trivial⟩
  have wideSpace : AllBlank "\u3000".toList := List.forall_mem_singleton.2 (by decide)
  have lineBreak : AllBlank "\u2028".toList := List.forall_mem_singleton.2 (by decide)
  have separator : AllBlank "\x1c".toList := List.forall_mem_singleton.2 (by decide)
  exact ⟨accepted, read_surrounded .none text "\u3000" "\u2028" "\x1c" "```" " as you see" value
    true accepted wideSpace lineBreak separator (by decide) (by decide)⟩

end Document

end PageTree
