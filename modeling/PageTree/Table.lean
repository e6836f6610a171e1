/-!
# Ordered tables

A table is a list of named entries in insertion order.  Objects of a page
descriptor, style records, themes, catalogues of component types, host
capabilities and log contexts are all tables, so their common rule is stated
once: writing a name that is already present replaces its entry in place, and
writing a new name appends it.

A table built by these operations names each entry once (`Table.Distinct`).  The
look-up reads the first entry of a name, so it is defined on every list.
-/

namespace PageTree

/-- Named entries in insertion order. -/
abbrev Table (α : Type) := List (String × α)

namespace Table

variable {α β : Type}

/-- The entry of a name, if the table has one. -/
def get? (table : Table α) (name : String) : Option α :=
  match table with
  | [] => none
  | (entryName, entry) :: rest =>
      if entryName = name then some entry else get? rest name

/-- Whether the table has an entry of this name. -/
def contains (table : Table α) (name : String) : Bool :=
  (table.get? name).isSome

/-- The names, in order. -/
def names (table : Table α) : List String :=
  table.map Prod.fst

/-- Every name occurs once. -/
def Distinct (table : Table α) : Prop :=
  table.names.Nodup

instance (table : Table α) : Decidable table.Distinct :=
  inferInstanceAs (Decidable table.names.Nodup)

/-- Write one entry: a present name keeps its place and takes the new entry, a
new name goes to the end. -/
def insert (table : Table α) (name : String) (entry : α) : Table α :=
  match table with
  | [] => [(name, entry)]
  | (entryName, old) :: rest =>
      if entryName = name then (name, entry) :: rest
      else (entryName, old) :: insert rest name entry

/-- Remove the first entry of a name. -/
def erase (table : Table α) (name : String) : Table α :=
  match table with
  | [] => []
  | (entryName, entry) :: rest =>
      if entryName = name then rest else (entryName, entry) :: erase rest name

/-- Write all entries of `changes`, in their order. -/
def update (table changes : Table α) : Table α :=
  changes.foldl (fun result change => insert result change.1 change.2) table

/-- The table that results from writing the entries one after the other: a
repeated name keeps its first place and takes its last entry. -/
def ofEntries (entries : List (String × α)) : Table α :=
  update [] entries

/-- Apply a function to every entry. -/
def mapEntries (table : Table α) (image : α → β) : Table β :=
  table.map fun (name, entry) => (name, image entry)

@[simp] theorem get?_nil (name : String) : get? ([] : Table α) name = none := rfl

@[simp] theorem get?_insert_self (table : Table α) (name : String) (entry : α) :
    (insert table name entry).get? name = some entry := by
  induction table with
  | nil => simp [insert, get?]
  | cons head rest ih =>
      obtain ⟨entryName, old⟩ := head
      by_cases same : entryName = name
      · simp [insert, same, get?]
      · simp [insert, same, get?, ih]

theorem get?_insert_of_ne (table : Table α) {name other : String} (entry : α)
    (different : other ≠ name) :
    (insert table name entry).get? other = table.get? other := by
  induction table with
  | nil => simp [insert, get?, different.symm]
  | cons head rest ih =>
      obtain ⟨entryName, old⟩ := head
      by_cases same : entryName = name
      · simp [insert, same, get?, different.symm]
      · simp [insert, same, get?, ih]

theorem get?_eq_none_iff (table : Table α) (name : String) :
    table.get? name = none ↔ name ∉ table.names := by
  induction table with
  | nil => simp [names]
  | cons head rest ih =>
      obtain ⟨entryName, old⟩ := head
      by_cases same : entryName = name
      · simp [get?, same, names]
      · have step := ih
        simp only [names] at step
        simp [get?, same, names, step, Ne.symm same]

theorem contains_iff (table : Table α) (name : String) :
    table.contains name = true ↔ name ∈ table.names := by
  have absent := get?_eq_none_iff table name
  cases found : table.get? name with
  | none => simp [contains, found, absent.1 found]
  | some entry =>
      simp only [contains, found, Option.isSome_some, true_iff]
      exact Classical.byContradiction fun missing => by
        simp [absent.2 missing] at found

/-- Writing a present name leaves the names as they are; a new one is appended. -/
theorem names_insert (table : Table α) (name : String) (entry : α) :
    (insert table name entry).names =
      if name ∈ table.names then table.names else table.names ++ [name] := by
  induction table with
  | nil => simp [insert, names]
  | cons head rest ih =>
      obtain ⟨entryName, old⟩ := head
      by_cases same : entryName = name
      · simp [insert, same, names]
      · simp only [names] at ih ⊢
        by_cases member : name ∈ rest.map Prod.fst
        · simp [insert, same, ih, member]
        · simp [insert, same, ih, member, Ne.symm same]

theorem Distinct.insert {table : Table α} (distinct : table.Distinct)
    (name : String) (entry : α) : Distinct (insert table name entry) := by
  unfold Distinct
  rw [names_insert]
  split
  · exact distinct
  · rename_i absent
    rw [List.nodup_append]
    exact ⟨distinct, by simp, by
      intro left leftMem right rightMem equal
      simp only [List.mem_singleton] at rightMem
      exact absent (rightMem ▸ equal ▸ leftMem)⟩

theorem Distinct.update {table : Table α} (distinct : table.Distinct)
    (changes : Table α) : Distinct (update table changes) := by
  induction changes generalizing table with
  | nil => exact distinct
  | cons change rest ih => exact ih (distinct.insert change.1 change.2)

theorem distinct_ofEntries (entries : List (String × α)) :
    Distinct (ofEntries entries) :=
  have empty : Distinct ([] : Table α) := by simp [Distinct, names]
  empty.update entries

end Table

end PageTree
