import PageTree.Json.Document
import PageTree.Proofs.Json.WrittenTokens
import PageTree.Proofs.Tables

/-!
# Writing and reading back

A value that repeats no field name and whose doubles are finite is read back from its
text, in every layout (`Document.read_dump`).  Its text is read as its tokens, and the
tokens of a value take the machine that waits for a value to the state in which it has
got that value (`leads_tokensOf`).  The text neither begins nor ends with a blank, so
nothing of it is trimmed, and the first attempt at reading it succeeds.
-/

namespace PageTree

namespace Json

variable {before between after : State} {token : Token} {tokens : List Token}
  {frames : List Frame}

/-- The tokens take the machine from one state to another. -/
def Leads (before : State) (tokens : List Token) (after : State) : Prop :=
  tokens.foldlM step? before = some after

theorem leads_nil (state : State) : Leads state [] state := rfl

theorem Leads.cons (taken : step? before token = some between)
    (others : Leads between tokens after) : Leads before (token :: tokens) after := by
  unfold Leads at *
  rw [List.foldlM_cons, taken]
  exact others

theorem Leads.append {left right : List Token} (first : Leads before left between)
    (second : Leads between right after) : Leads before (left ++ right) after := by
  unfold Leads at *
  rw [List.foldlM_append, first]
  exact second

theorem leads_token (taken : step? before token = some after) :
    Leads before [token] after :=
  .cons taken (leads_nil after)

theorem leads_atom (value : Value) (opened : Bool) (frames : List Frame) :
    Leads (.value opened frames) [.atom value] (give value frames) := by
  cases opened <;> exact leads_token rfl

mutual

/-- The tokens of a value are assembled to that value. -/
theorem leads_tokensOf (opened : Bool) (frames : List Frame) (value : Value)
    (distinct : value.DistinctKeys) :
    Leads (.value opened frames) (tokensOf value) (give value frames) := by
  cases value with
  | array items =>
      have opens : step? (.value opened frames) .openArray =
          some (.value true (.array [] :: frames)) := by
        cases opened <;> rfl
      cases items with
      | nil => exact .cons opens (leads_token rfl)
      | cons item items =>
          have first := leads_tokensOf true (.array [] :: frames) item distinct.1
          have behind := leads_tokensOfItems [item] frames items distinct.2
          have complete : step? (.afterItem (items.reverse ++ [item]) frames) .closeArray =
              some (give (.array (item :: items)) frames) := by
            simp [step?]
          exact .cons opens (first.append (behind.append (leads_token complete)))
  | object fields =>
      have opens : step? (.value opened frames) .openObject =
          some (.name true [] frames) := by
        cases opened <;> rfl
      cases fields with
      | nil => exact .cons opens (leads_token rfl)
      | cons field fields =>
          obtain ⟨name, item⟩ := field
          have first := leads_tokensOf false (.member [] name :: frames) item distinct.2.1
          have behind := leads_tokensOfFields [(name, item)] frames fields distinct.1
            distinct.2.2
          exact .cons opens (.cons rfl (.cons rfl (first.append
            (behind.append (leads_token rfl)))))
  | _ => exact leads_atom _ opened frames
termination_by structural value

/-- Items are put behind those that the array has. -/
theorem leads_tokensOfItems (items : List Value) (frames : List Frame)
    (rest : List Value) (distinct : Value.DistinctKeysOfItems rest) :
    Leads (.afterItem items frames) (tokensOfItems rest)
      (.afterItem (rest.reverse ++ items) frames) := by
  cases rest with
  | nil => exact leads_nil _
  | cons item rest =>
      have first := leads_tokensOf false (.array items :: frames) item distinct.1
      have behind := leads_tokensOfItems (item :: items) frames rest distinct.2
      rw [List.reverse_cons, List.append_assoc]
      exact .cons rfl (first.append behind)
termination_by structural rest

/-- Fields are put behind those that the object has, as their names are new. -/
theorem leads_tokensOfFields (fields : Record) (frames : List Frame)
    (rest : List (String × Value)) (distinctNames : Table.Distinct (fields ++ rest))
    (distinct : Value.DistinctKeysOfFields rest) :
    Leads (.afterMember fields frames) (tokensOfFields rest)
      (.afterMember (fields ++ rest) frames) := by
  cases rest with
  | nil =>
      rw [List.append_nil]
      exact leads_nil _
  | cons field rest =>
      obtain ⟨name, item⟩ := field
      have absent : name ∉ Table.names fields := by
        intro member
        unfold Table.Distinct Table.names at distinctNames
        rw [List.map_append, List.map_cons] at distinctNames
        exact (List.nodup_append.1 distinctNames).2.2 name member name List.mem_cons_self rfl
      have first := leads_tokensOf false (.member fields name :: frames) item distinct.1
      rw [give_member, Table.insert_of_notMem item absent] at first
      have grown : fields ++ (name, item) :: rest = fields ++ [(name, item)] ++ rest := by
        simp
      rw [grown] at distinctNames ⊢
      have behind := leads_tokensOfFields (fields ++ [(name, item)]) frames rest
        distinctNames distinct.2
      exact .cons rfl (.cons rfl (.cons rfl (first.append behind)))
termination_by structural rest

end

/-- The empty text denotes nothing. -/
theorem read?_nil : read? [] = none := by
  rw [read?, tokens?]
  rfl

/-- A written value is read back. -/
theorem read?_write (format : Format) {value : Value} (distinct : value.DistinctKeys)
    (finite : value.AllFinite) : read? (format.write 0 value) = some value := by
  have assembled := leads_tokensOf false [] value distinct
  unfold Leads at assembled
  rw [read?, tokens?_write format finite, Option.bind_some, assemble?, State.initial,
    assembled]
  rfl

/-! ## Edges of a text -/

/-- The text begins and ends with characters that are no blanks. -/
structure Solid (chars : List Char) : Prop where
  first : ∃ char, chars.head? = some char ∧ Text.isBlank char = false
  last : ∃ char, chars.getLast? = some char ∧ Text.isBlank char = false

theorem getLast?_append_of_eq_some {left right : List Char} {char : Char}
    (ends : right.getLast? = some char) : (left ++ right).getLast? = some char := by
  rw [List.getLast?_append, ends]
  rfl

/-- Nothing of such a text is trimmed. -/
theorem Solid.trim_eq {chars : List Char} (solid : Solid chars) : Text.trim chars = chars := by
  have kept : ∀ {chars : List Char} {char : Char}, chars.head? = some char →
      Text.isBlank char = false → chars.dropWhile Text.isBlank = chars := by
    intro chars char begins noBlank
    cases chars with
    | nil => rfl
    | cons first others =>
        cases begins
        exact List.dropWhile_cons_of_neg (Bool.eq_false_iff.1 noBlank)
  obtain ⟨first, begins, firstKept⟩ := solid.first
  obtain ⟨last, ends, lastKept⟩ := solid.last
  rw [← List.head?_reverse] at ends
  rw [Text.trim, Text.trimWhere, kept begins firstKept, Text.trimEndWhere,
    kept ends lastKept, List.reverse_reverse]

theorem isBlank_eq_false_of_isNumberChar {char : Char} (number : isNumberChar char = true) :
    Text.isBlank char = false := by
  simp only [isNumberChar, Numeral.isDigit, Bool.or_eq_true, Bool.and_eq_true,
    decide_eq_true_eq, beq_iff_eq] at number
  rcases number with (((digit | rfl) | rfl) | rfl) | rfl
  · simp only [Text.isBlank, Text.isWhiteSpace, Text.isInformationSeparator,
      Bool.or_eq_false_iff, Bool.and_eq_false_iff, decide_eq_false_iff_not,
      beq_eq_false_iff_ne]
    omega
  all_goals rfl

theorem solid_of_allNumberChars {chars : List Char} (nonempty : chars ≠ [])
    (numberChars : AllNumberChars chars) : Solid chars := by
  have inside : ∀ char ∈ chars, Text.isBlank char = false :=
    fun char member => isBlank_eq_false_of_isNumberChar (numberChars char member)
  constructor
  · exact ⟨_, List.head?_eq_some_head nonempty, inside _ (List.head_mem nonempty)⟩
  · exact ⟨_, List.getLast?_eq_some_getLast nonempty, inside _ (List.getLast_mem nonempty)⟩

/-- The text of a value has no blanks at its ends. -/
theorem solid_write (format : Format) (level : Nat) {value : Value}
    (finite : value.AllFinite) : Solid (format.write level value) := by
  cases value with
  | null => exact ⟨⟨_, rfl, rfl⟩, ⟨_, rfl, rfl⟩⟩
  | bool truth => cases truth <;> exact ⟨⟨_, rfl, rfl⟩, ⟨_, rfl, rfl⟩⟩
  | int number =>
      exact solid_of_allNumberChars (Numeral.signedDigits_ne_nil number)
        (allNumberChars_signedDigits number)
  | float number =>
      cases number with
      | finite negative rank =>
          exact solid_of_allNumberChars (writeFinite_ne_nil _ negative rank.val)
            (allNumberChars_writeFinite _ negative rank.val)
      | infinite | nan => cases finite
  | string text =>
      have ends : (encodeString text).getLast? = some '"' := getLast?_append_of_eq_some rfl
      exact ⟨⟨'"', rfl, rfl⟩, ⟨'"', ends, rfl⟩⟩
  | array items =>
      cases items with
      | nil => exact ⟨⟨_, rfl, rfl⟩, ⟨_, rfl, rfl⟩⟩
      | cons item items =>
          refine ⟨⟨'[', rfl, rfl⟩, ⟨']', ?_, rfl⟩⟩
          unfold Format.write
          iterate 4 apply getLast?_append_of_eq_some
          rfl
  | object fields =>
      cases fields with
      | nil => exact ⟨⟨_, rfl, rfl⟩, ⟨_, rfl, rfl⟩⟩
      | cons field fields =>
          refine ⟨⟨'\x7b', rfl, rfl⟩, ⟨'\x7d', ?_, rfl⟩⟩
          unfold Format.write
          iterate 6 apply getLast?_append_of_eq_some
          rfl

end Json

namespace Document

open Json

variable {mend : Mender} {text : String} {value : Value}

/-- The empty text is not of the strict format. -/
theorem isEmpty_of_readStrict? {chars : List Char} (accepted : readStrict? chars = some value) :
    chars.isEmpty = false := by
  cases chars with
  | cons char chars => rfl
  | nil =>
      have nothing : readStrict? [] = none := by
        simp only [readStrict?, read?_nil]
        exact read?_nil
      cases nothing.symm.trans accepted

/-- What is of the strict format, perhaps in a fence, is read without being mended. -/
theorem read_of_readStrict? (accepted : readStrict? (Text.trim text.toList) = some value)
    (repair : Bool) : Document.read mend text repair = .ok value := by
  simp only [Document.read, isEmpty_of_readStrict? accepted, Bool.false_eq_true, if_false,
    accepted]

/-- What is dumped is of the strict format, and nothing of it is trimmed. -/
theorem readStrict?_dump (distinct : value.DistinctKeys) (finite : value.AllFinite)
    (indent : Int) : readStrict? (Text.trim (dump value indent).toList) = some value := by
  have solid := solid_write (Format.choose indent value) 0 finite
  simp only [dump, String.toList_ofList, solid.trim_eq, readStrict?,
    read?_write _ distinct finite]

/-- What is dumped is read back: with any indentation, whether repairs are permitted or not,
and whatever they would be. -/
theorem read_dump {value : Value} (distinct : value.DistinctKeys)
    (finite : value.AllFinite) (indent : Int) (repair : Bool) :
    Document.read mend (dump value indent) repair = .ok value :=
  read_of_readStrict? (readStrict?_dump distinct finite indent) repair

/-- An object in which every kind of value occurs, on one line and without repairs. -/
theorem read_dump_one_line :
    let tenth : Binary64 := .finite true ⟨4591870180066957722, by decide⟩
    let value : Value := .object [("z\u0001\"", .array [.float tenth, .null]),
      ("a", .object [("", .bool true)]), ("n", .int (-18446744073709551617)),
      ("\u2028", .string "\\\n")]
    value.DistinctKeys ∧ value.AllFinite ∧
      Document.read .none (dump value (-1)) false = .ok value := by
  intro tenth value
  have distinct : value.DistinctKeys :=
    ⟨by decide, ⟨trivial, trivial, trivial⟩, ⟨by decide, trivial, trivial⟩, trivial, trivial,
      trivial⟩
  have finite : value.AllFinite :=
    ⟨⟨rfl, trivial, trivial⟩, ⟨trivial, trivial⟩, trivial, trivial, trivial⟩
  exact ⟨distinct, finite, read_dump distinct finite (-1) false⟩

end Document

end PageTree
