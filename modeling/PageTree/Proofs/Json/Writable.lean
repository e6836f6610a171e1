import PageTree.Proofs.Json.RoundTrip

/-!
# What can be written

A value is writable when it repeats no field name and has no doubles but finite ones:
such a value is read back from its text (`Document.read_dump`), and no token of that text
names an infinity or NaN.  A value that repeats no field name becomes writable when null
takes the place of the other doubles (`Value.writable_finiteOrNull`).
-/

namespace PageTree

namespace Value

variable {items : List Value} {fields : Record}

theorem distinctKeysOfItems_iff :
    DistinctKeysOfItems items ↔ ∀ item ∈ items, item.DistinctKeys := by
  induction items with
  | nil => simp [DistinctKeysOfItems]
  | cons item rest ih => simp [DistinctKeysOfItems, ih]

theorem distinctKeysOfFields_iff :
    DistinctKeysOfFields fields ↔ ∀ field ∈ fields, field.2.DistinctKeys := by
  induction fields with
  | nil => simp [DistinctKeysOfFields]
  | cons field rest ih =>
      rw [DistinctKeysOfFields, ih, List.forall_mem_cons]

theorem allFiniteItems_iff : AllFiniteItems items ↔ ∀ item ∈ items, item.AllFinite := by
  induction items with
  | nil => simp [AllFiniteItems]
  | cons item rest ih => simp [AllFiniteItems, ih]

theorem allFiniteFields_iff :
    AllFiniteFields fields ↔ ∀ field ∈ fields, field.2.AllFinite := by
  induction fields with
  | nil => simp [AllFiniteFields]
  | cons field rest ih => rw [AllFiniteFields, ih, List.forall_mem_cons]

theorem distinctKeys_array_iff :
    (array items).DistinctKeys ↔ ∀ item ∈ items, item.DistinctKeys :=
  distinctKeysOfItems_iff

theorem distinctKeys_object_iff :
    (object fields).DistinctKeys ↔
      Table.Distinct fields ∧ ∀ field ∈ fields, field.2.DistinctKeys := by
  rw [DistinctKeys, distinctKeysOfFields_iff]

/-- No field name is repeated inside the value, and all doubles are finite. -/
structure Writable (value : Value) : Prop where
  distinct : value.DistinctKeys
  finite : value.AllFinite

theorem writable_null : null.Writable := ⟨trivial, trivial⟩

theorem writable_string (text : String) : (string text).Writable := ⟨trivial, trivial⟩

theorem writable_array_iff : (array items).Writable ↔ ∀ item ∈ items, item.Writable := by
  constructor
  · rintro ⟨distinct, finite⟩ item member
    exact ⟨distinctKeys_array_iff.1 distinct item member,
      allFiniteItems_iff.1 finite item member⟩
  · intro each
    exact ⟨distinctKeys_array_iff.2 fun item member => (each item member).distinct,
      allFiniteItems_iff.2 fun item member => (each item member).finite⟩

theorem writable_object_iff :
    (object fields).Writable ↔
      Table.Distinct fields ∧ ∀ field ∈ fields, field.2.Writable := by
  constructor
  · rintro ⟨distinct, finite⟩
    obtain ⟨names, each⟩ := distinctKeys_object_iff.1 distinct
    refine ⟨names, ?_⟩
    intro field member
    exact ⟨each field member, allFiniteFields_iff.1 finite field member⟩
  · rintro ⟨names, each⟩
    exact ⟨distinctKeys_object_iff.2 ⟨names, fun field member => (each field member).distinct⟩,
      allFiniteFields_iff.2 fun field member => (each field member).finite⟩

/-! ## Null in place of infinities and NaN -/

/-- The names of the fields are kept. -/
theorem names_finiteOrNullFields (fields : Record) :
    Table.names (finiteOrNullFields fields) = Table.names fields := by
  induction fields with
  | nil => rfl
  | cons field rest ih =>
      simp only [Table.names] at ih ⊢
      simp only [finiteOrNullFields, List.map_cons, ih]

mutual

/-- Without infinities and NaN, a value that repeats no field name is writable. -/
theorem writable_finiteOrNull (value : Value) (distinct : value.DistinctKeys) :
    value.finiteOrNull.Writable := by
  cases value with
  | float number =>
      rw [finiteOrNull]
      split
      next finite => exact ⟨trivial, finite⟩
      next => exact writable_null
  | array items =>
      rw [finiteOrNull, writable_array_iff]
      exact writable_finiteOrNullItems items distinct
  | object fields =>
      rw [finiteOrNull, writable_object_iff, Table.Distinct, names_finiteOrNullFields]
      exact ⟨distinct.1, writable_finiteOrNullFields fields distinct.2⟩
  | null | bool | int | string => exact ⟨trivial, trivial⟩
termination_by structural value

/-- So are the items of a list. -/
theorem writable_finiteOrNullItems (items : List Value) (distinct : DistinctKeysOfItems items) :
    ∀ item ∈ finiteOrNullItems items, item.Writable := by
  cases items with
  | nil => exact List.forall_mem_nil _
  | cons item rest =>
      rw [finiteOrNullItems, List.forall_mem_cons]
      exact ⟨writable_finiteOrNull item distinct.1, writable_finiteOrNullItems rest distinct.2⟩
termination_by structural items

/-- So are the values of a record. -/
theorem writable_finiteOrNullFields (fields : List (String × Value))
    (distinct : DistinctKeysOfFields fields) :
    ∀ field ∈ finiteOrNullFields fields, field.2.Writable := by
  cases fields with
  | nil => exact List.forall_mem_nil _
  | cons field rest =>
      obtain ⟨name, item⟩ := field
      rw [finiteOrNullFields, List.forall_mem_cons]
      exact ⟨writable_finiteOrNull item distinct.1, writable_finiteOrNullFields rest distinct.2⟩
termination_by structural fields

end

end Value

namespace Json

/-- A token that is not the name of an infinity or of NaN. -/
def Token.IsFinite : Token → Prop
  | .atom value => value.AllFinite
  | _ => True

mutual

/-- The tokens of a value without infinities and NaN name none. -/
theorem isFinite_tokensOf (value : Value) (finite : value.AllFinite) :
    ∀ token ∈ tokensOf value, token.IsFinite := by
  cases value with
  | array items =>
      cases items with
      | nil => simp [tokensOf, Token.IsFinite]
      | cons item rest =>
          simp only [tokensOf, List.forall_mem_cons, List.forall_mem_append]
          exact ⟨trivial, isFinite_tokensOf item finite.1,
            isFinite_tokensOfItems rest finite.2, trivial, List.forall_mem_nil _⟩
  | object fields =>
      cases fields with
      | nil => simp [tokensOf, Token.IsFinite]
      | cons field rest =>
          obtain ⟨name, item⟩ := field
          simp only [tokensOf, List.forall_mem_cons, List.forall_mem_append]
          exact ⟨trivial, trivial, trivial, isFinite_tokensOf item finite.1,
            isFinite_tokensOfFields rest finite.2, trivial, List.forall_mem_nil _⟩
  | null | bool | int | float | string =>
      simp only [tokensOf, List.forall_mem_singleton]
      exact finite
termination_by structural value

/-- Nor do those of the items behind the first one. -/
theorem isFinite_tokensOfItems (items : List Value) (finite : Value.AllFiniteItems items) :
    ∀ token ∈ tokensOfItems items, token.IsFinite := by
  cases items with
  | nil => exact List.forall_mem_nil _
  | cons item rest =>
      simp only [tokensOfItems, List.forall_mem_cons, List.forall_mem_append]
      exact ⟨trivial, isFinite_tokensOf item finite.1, isFinite_tokensOfItems rest finite.2⟩
termination_by structural items

/-- Nor do those of the fields behind the first one. -/
theorem isFinite_tokensOfFields (fields : List (String × Value))
    (finite : Value.AllFiniteFields fields) :
    ∀ token ∈ tokensOfFields fields, token.IsFinite := by
  cases fields with
  | nil => exact List.forall_mem_nil _
  | cons field rest =>
      obtain ⟨name, item⟩ := field
      simp only [tokensOfFields, List.forall_mem_cons, List.forall_mem_append]
      exact ⟨trivial, trivial, trivial, isFinite_tokensOf item finite.1,
        isFinite_tokensOfFields rest finite.2⟩
termination_by structural fields

end

end Json

end PageTree
