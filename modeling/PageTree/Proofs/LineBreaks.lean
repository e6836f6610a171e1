import PageTree.Proofs.Fences
import PageTree.Text.LineBreak

/-!
# Line breaks around a text

Unifying the line breaks of a text (`Text.unifyBreaks`) commutes with everything that is done
to a document before it is read: with dropping blanks at its ends (`Text.trim_unifyBreaks`),
since every character of a line break is a blank, and with taking it out of a fence
(`Text.unfence_unifyBreaks`), since no fence has a line break in it.
-/

namespace PageTree

namespace Text

variable {chars rest front back before word : List Char} {char : Char}

/-- Neither of the characters that line breaks are made of. -/
def NoBreak (char : Char) : Prop :=
  char ≠ '\r' ∧ char ≠ '\n'

instance (char : Char) : Decidable (NoBreak char) :=
  inferInstanceAs (Decidable (_ ∧ _))

@[simp] theorem unifyBreaks_nil : unifyBreaks [] = [] := rfl

theorem unifyBreaks_pair (rest : List Char) :
    unifyBreaks ('\r' :: '\n' :: rest) = '\n' :: unifyBreaks rest := rfl

theorem unifyBreaks_return (noFeed : rest.head? ≠ some '\n') :
    unifyBreaks ('\r' :: rest) = '\n' :: unifyBreaks rest := by
  rw [unifyBreaks]
  rintro others rfl
  exact noFeed rfl

theorem unifyBreaks_cons (noReturn : char ≠ '\r') (rest : List Char) :
    unifyBreaks (char :: rest) = char :: unifyBreaks rest := by
  rw [unifyBreaks]
  · intro others same
    exact absurd same noReturn
  · exact noReturn

/-- Texts are built from line breaks of both characters, carriage returns on their own, and
other characters. -/
theorem breakInduction {Holds : List Char → Prop} (nil : Holds [])
    (pair : ∀ rest, Holds rest → Holds ('\r' :: '\n' :: rest))
    (lone : ∀ rest, rest.head? ≠ some '\n' → Holds rest → Holds ('\r' :: rest))
    (other : ∀ char rest, char ≠ '\r' → Holds rest → Holds (char :: rest))
    (chars : List Char) : Holds chars := by
  fun_induction unifyBreaks chars with
  | case1 => exact nil
  | case2 rest ih => exact pair rest ih
  | case3 rest noFeed ih =>
      apply lone rest _ ih
      cases rest with
      | nil => simp
      | cons char rest =>
          intro feed
          cases feed
          exact noFeed rest rfl
  | case4 char rest _ noReturn ih => exact other char rest noReturn ih

theorem eq_return_or_feed (broken : ¬NoBreak char) : char = '\r' ∨ char = '\n' := by
  by_cases isReturn : char = '\r'
  · exact .inl isReturn
  · exact .inr (Classical.byContradiction fun noFeed => broken ⟨isReturn, noFeed⟩)

/-- A unified line break stands where one stood. -/
theorem exists_unifyBreaks_break (broken : ¬NoBreak char) (rest : List Char) :
    ∃ behind, unifyBreaks (char :: rest) = '\n' :: unifyBreaks behind := by
  rcases eq_return_or_feed broken with rfl | rfl
  · by_cases feed : rest.head? = some '\n'
    · obtain ⟨others, rfl⟩ := List.head?_eq_some_iff.1 feed
      exact ⟨others, unifyBreaks_pair others⟩
    · exact ⟨rest, unifyBreaks_return feed⟩
  · exact ⟨rest, unifyBreaks_cons (by decide) rest⟩

/-- Unifying line breaks brings no other character to the front. -/
theorem head?_unifyBreaks_ne (plain : NoBreak char) (different : rest.head? ≠ some char) :
    (unifyBreaks rest).head? ≠ some char := by
  cases rest with
  | nil => exact different
  | cons first others =>
      by_cases plainFirst : NoBreak first
      · rw [unifyBreaks_cons plainFirst.1]
        exact different
      · obtain ⟨behind, unified⟩ := exists_unifyBreaks_break plainFirst others
        simp [unified, plain.2.symm]

/-- A text without line breaks has none to unify, whatever follows it. -/
theorem unifyBreaks_append_of_noBreak (noBreaks : ∀ char ∈ front, NoBreak char)
    (back : List Char) : unifyBreaks (front ++ back) = front ++ unifyBreaks back := by
  induction front with
  | nil => rfl
  | cons char front ih =>
      obtain ⟨first, others⟩ := List.forall_mem_cons.1 noBreaks
      rw [List.cons_append, unifyBreaks_cons first.1, ih others, List.cons_append]

/-! ## Trimming -/

/-- What is dropped from the front does not depend on the line breaks, if they are treated
alike. -/
theorem dropWhile_unifyBreaks {drops : Char → Bool} (alike : drops '\r' = drops '\n')
    (chars : List Char) :
    (unifyBreaks chars).dropWhile drops = unifyBreaks (chars.dropWhile drops) := by
  induction chars using breakInduction with
  | nil => rfl
  | pair rest ih =>
      cases dropped : drops '\n' with
      | true => simp [unifyBreaks_pair, alike, dropped, ih]
      | false => simp [unifyBreaks_pair, alike, dropped]
  | lone rest noFeed ih =>
      cases dropped : drops '\n' with
      | true => simp [unifyBreaks_return noFeed, alike, dropped, ih]
      | false => simp [unifyBreaks_return noFeed, alike, dropped]
  | other char rest noReturn ih =>
      cases dropped : drops char with
      | true => simp [unifyBreaks_cons noReturn, dropped, ih]
      | false => simp [unifyBreaks_cons noReturn, dropped]

/-- Nor does what is taken in front of the first line break. -/
theorem takeWhile_unifyBreaks {takes : Char → Bool} (atReturn : takes '\r' = false)
    (atFeed : takes '\n' = false) (chars : List Char) :
    (unifyBreaks chars).takeWhile takes = chars.takeWhile takes := by
  induction chars using breakInduction with
  | nil => rfl
  | pair rest => simp [unifyBreaks_pair, atReturn, atFeed]
  | lone rest noFeed => simp [unifyBreaks_return noFeed, atReturn, atFeed]
  | other char rest noReturn ih => simp [unifyBreaks_cons noReturn, List.takeWhile_cons, ih]

theorem unifyBreaks_eq_nil_iff : unifyBreaks chars = [] ↔ chars = [] := by
  induction chars using breakInduction with
  | nil => simp
  | pair rest => simp [unifyBreaks_pair]
  | lone rest noFeed => simp [unifyBreaks_return noFeed]
  | other char rest noReturn => simp [unifyBreaks_cons noReturn]

/-- A character is trimmed at the end if everything behind it is. -/
theorem trimEnd_cons (char : Char) (rest : List Char) :
    trimEnd (char :: rest) =
      if isBlank char = true ∧ trimEnd rest = [] then [] else char :: trimEnd rest := by
  simp only [trimEnd, trimEndWhere, List.reverse_cons, List.dropWhile_append,
    List.reverse_eq_nil_iff]
  cases rest.reverse.dropWhile isBlank with
  | nil => cases blank : isBlank char <;> simp [blank]
  | cons => simp

theorem prefix_trimEnd (chars : List Char) : trimEnd chars <+: chars := by
  have dropped : chars.reverse.dropWhile isBlank <:+ chars.reverse := List.dropWhile_suffix _
  simpa [trimEnd, trimEndWhere] using List.reverse_prefix.2 dropped

theorem head?_ne_of_prefix (inFront : front <+: back) (different : back.head? ≠ some char) :
    front.head? ≠ some char := by
  obtain ⟨others, rfl⟩ := inFront
  cases front with
  | nil => simp
  | cons => exact different

theorem trimEnd_unifyBreaks (chars : List Char) :
    trimEnd (unifyBreaks chars) = unifyBreaks (trimEnd chars) := by
  have feedBlank : isBlank '\n' = true := by decide
  have returnBlank : isBlank '\r' = true := by decide
  induction chars using breakInduction with
  | nil => rfl
  | pair rest ih =>
      rw [unifyBreaks_pair, trimEnd_cons, trimEnd_cons, trimEnd_cons, ih]
      by_cases nothing : trimEnd rest = []
      · simp [nothing, feedBlank, returnBlank]
      · simp [nothing, unifyBreaks_eq_nil_iff, unifyBreaks_pair]
  | lone rest noFeed ih =>
      rw [unifyBreaks_return noFeed, trimEnd_cons, trimEnd_cons, ih]
      by_cases nothing : trimEnd rest = []
      · simp [nothing, feedBlank, returnBlank]
      · have keptFeed := head?_ne_of_prefix (prefix_trimEnd rest) noFeed
        simp [nothing, unifyBreaks_eq_nil_iff, unifyBreaks_return keptFeed]
  | other char rest noReturn ih =>
      rw [unifyBreaks_cons noReturn, trimEnd_cons, trimEnd_cons, ih]
      by_cases dropped : isBlank char = true ∧ trimEnd rest = []
      · simp [dropped]
      · simp [dropped, unifyBreaks_eq_nil_iff, unifyBreaks_cons noReturn]

theorem trim_unifyBreaks (chars : List Char) :
    trim (unifyBreaks chars) = unifyBreaks (trim chars) := by
  have alike : isBlank '\r' = isBlank '\n' := rfl
  have begins := dropWhile_unifyBreaks alike chars
  rw [trim, trimWhere, begins]
  exact trimEnd_unifyBreaks _

/-! ## Fences -/

theorem noBreak_fence : ∀ char ∈ fence, NoBreak char := by
  simp [fence, NoBreak]

theorem noBreak_namedFence : ∀ char ∈ namedFence, NoBreak char := by
  simp [namedFence, fence, NoBreak]

theorem isPrefixOf_unifyBreaks (noBreaks : ∀ char ∈ word, NoBreak char) (chars : List Char) :
    word.isPrefixOf (unifyBreaks chars) = word.isPrefixOf chars := by
  induction word generalizing chars with
  | nil => rfl
  | cons letter word ih =>
      obtain ⟨first, others⟩ := List.forall_mem_cons.1 noBreaks
      cases chars with
      | nil => rfl
      | cons char rest =>
          by_cases plain : NoBreak char
          · rw [unifyBreaks_cons plain.1, List.isPrefixOf_cons_cons, List.isPrefixOf_cons_cons,
              ih others]
          · obtain ⟨behind, unified⟩ := exists_unifyBreaks_break plain rest
            have notFeed : (letter == '\n') = false := beq_eq_false_iff_ne.2 first.2
            have notHere : (letter == char) = false := by
              rw [beq_eq_false_iff_ne]
              rintro rfl
              exact plain first
            rw [unified, List.isPrefixOf_cons_cons, List.isPrefixOf_cons_cons, notFeed, notHere]
            rfl

theorem prefix_beforeLastFence? (found : beforeLastFence? chars = some before) :
    before <+: chars := by
  induction chars generalizing before with
  | nil => cases found
  | cons char rest ih =>
      rw [beforeLastFence?] at found
      split at found
      next behind foundBehind =>
        cases found
        exact List.cons_prefix_cons.2 ⟨rfl, ih foundBehind⟩
      next =>
        split at found
        · cases found
          exact List.nil_prefix
        · cases found

/-- No fence begins with a line break, so the last one is found behind it. -/
theorem beforeLastFence?_break (broken : ¬NoBreak char) (rest : List Char) :
    beforeLastFence? (char :: rest) = (beforeLastFence? rest).map (char :: ·) := by
  have notHere : fence.isPrefixOf (char :: rest) = false := by
    have different : '`' ≠ char := by
      rintro rfl
      exact broken (by decide)
    simp [fence, List.isPrefixOf, different]
  rw [beforeLastFence?, notHere]
  cases beforeLastFence? rest <;> rfl

/-- The last fence is found at the same place. -/
theorem beforeLastFence?_unifyBreaks (chars : List Char) :
    beforeLastFence? (unifyBreaks chars) = (beforeLastFence? chars).map unifyBreaks := by
  have feed : ¬NoBreak '\n' := by decide
  have carriageReturn : ¬NoBreak '\r' := by decide
  induction chars using breakInduction with
  | nil => rfl
  | pair rest ih =>
      rw [unifyBreaks_pair, beforeLastFence?_break feed, beforeLastFence?_break carriageReturn,
        beforeLastFence?_break feed, ih]
      cases beforeLastFence? rest <;> rfl
  | lone rest noFeed ih =>
      rw [unifyBreaks_return noFeed, beforeLastFence?_break feed,
        beforeLastFence?_break carriageReturn, ih]
      cases found : beforeLastFence? rest with
      | none => rfl
      | some before =>
          have keptFeed := head?_ne_of_prefix (prefix_beforeLastFence? found) noFeed
          exact congrArg some (unifyBreaks_return keptFeed).symm
  | other char rest noReturn ih =>
      have samePrefix := isPrefixOf_unifyBreaks noBreak_fence (char :: rest)
      rw [unifyBreaks_cons noReturn] at samePrefix ⊢
      rw [beforeLastFence?, beforeLastFence?, ih, samePrefix]
      cases beforeLastFence? rest with
      | some before => exact congrArg some (unifyBreaks_cons noReturn before).symm
      | none => cases fence.isPrefixOf (char :: rest) <;> rfl

/-- So what stands between an opening and the last fence is the same, and also whether anything
does. -/
theorem trim_drop_unifyBreaks {opening : List Char} (noBreaks : ∀ char ∈ opening, NoBreak char)
    (opens : opening <+: chars) (inFront : before <+: chars) :
    (if (unifyBreaks before).length < opening.length then unifyBreaks chars
      else trim ((unifyBreaks before).drop opening.length)) =
      unifyBreaks (if before.length < opening.length then chars
        else trim (before.drop opening.length)) := by
  by_cases short : before.length < opening.length
  · -- what is cut off within the opening has no line breaks
    have plain : unifyBreaks before = before := by
      have cut := List.prefix_of_prefix_length_le inFront opens (Nat.le_of_lt short)
      have unified := unifyBreaks_append_of_noBreak
        (fun char member => noBreaks char (cut.subset member)) []
      simpa using unified
    rw [plain, if_pos short, if_pos short]
  · obtain ⟨inside, rfl⟩ :=
      List.prefix_of_prefix_length_le opens inFront (Nat.le_of_not_lt short)
    have long : ¬(opening ++ unifyBreaks inside).length < opening.length := by simp
    rw [unifyBreaks_append_of_noBreak noBreaks, if_neg long, if_neg short, List.drop_left,
      List.drop_left, trim_unifyBreaks]

theorem unfence_unifyBreaks (chars : List Char) :
    unfence (unifyBreaks chars) = unifyBreaks (unfence chars) := by
  simp only [unfence, isPrefixOf_unifyBreaks noBreak_fence,
    isPrefixOf_unifyBreaks noBreak_namedFence, beforeLastFence?_unifyBreaks]
  by_cases opens : fence.isPrefixOf chars = true
  · rw [if_pos opens, if_pos opens]
    cases found : beforeLastFence? chars with
    | none => rfl
    | some before =>
        have inFront := prefix_beforeLastFence? found
        by_cases named : namedFence.isPrefixOf chars = true
        · simp only [if_pos named, Option.map_some]
          exact trim_drop_unifyBreaks noBreak_namedFence (List.isPrefixOf_iff_prefix.1 named) inFront
        · simp only [if_neg named, Option.map_some]
          exact trim_drop_unifyBreaks noBreak_fence (List.isPrefixOf_iff_prefix.1 opens) inFront
  · rw [if_neg opens, if_neg opens]

end Text

end PageTree
