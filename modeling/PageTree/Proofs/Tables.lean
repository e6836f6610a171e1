import PageTree.Table

/-!
# Laws of ordered tables

How writing and erasing entries work together.  An entry keeps the place that its name
has, so writing back what was there, and erasing what was new, leave the table as it
was, in its order too.  Entries of different names do not concern each other, as long as
it is settled which of the two names comes first.

Of tables written one over the other, the last one that has a name gives its entry, and the
first one gives it its place.
-/

namespace PageTree.Table

variable {α : Type} {table changes : Table α} {name other : String} {entry old : α}
variable {field : String × α}

/-! ## Membership -/

/-- Names are looked up from the front. -/
theorem get?_append (front back : Table α) (name : String) :
    get? (front ++ back) name = (get? front name).or (get? back name) := by
  induction front with
  | nil => rfl
  | cons head rest ih =>
      obtain ⟨headName, headEntry⟩ := head
      by_cases same : headName = name
      · simp [get?, same]
      · simp [get?, same, ih]

theorem mem_of_get?_eq (found : table.get? name = some entry) : (name, entry) ∈ table := by
  induction table with
  | nil => cases found
  | cons head rest ih =>
      obtain ⟨headName, headEntry⟩ := head
      by_cases same : headName = name
      · simp only [get?, if_pos same, Option.some.injEq] at found
        simp [same, found]
      · simp only [get?, if_neg same] at found
        exact List.mem_cons_of_mem _ (ih found)

/-- Every entry of a table that names each once is found. -/
theorem get?_of_mem (distinct : table.Distinct) (member : field ∈ table) :
    table.get? field.1 = some field.2 := by
  induction table with
  | nil => cases member
  | cons head rest ih =>
      obtain ⟨absent, distinctRest⟩ := List.nodup_cons.1 distinct
      rcases List.mem_cons.1 member with rfl | later
      · exact if_pos rfl
      · have different : head.1 ≠ field.1 := by
          intro same
          exact absent (same ▸ List.mem_map_of_mem later)
        exact (if_neg different).trans (ih distinctRest later)

/-- Writing an entry brings in nothing else. -/
theorem mem_insert (member : field ∈ insert table name entry) :
    field = (name, entry) ∨ field ∈ table := by
  induction table with
  | nil => exact .inl (List.mem_singleton.1 member)
  | cons head rest ih =>
      obtain ⟨headName, headEntry⟩ := head
      unfold insert at member
      split at member
      · exact (List.mem_cons.1 member).imp_right (List.mem_cons_of_mem _)
      · rcases List.mem_cons.1 member with rfl | later
        · exact .inr List.mem_cons_self
        · exact (ih later).imp_right (List.mem_cons_of_mem _)

/-- Writing changes brings in nothing but them. -/
theorem mem_update (member : field ∈ update table changes) : field ∈ table ∨ field ∈ changes := by
  induction changes generalizing table with
  | nil => exact .inl member
  | cons change rest ih =>
      rcases ih member with earlier | later
      · rcases mem_insert earlier with rfl | kept
        · exact .inr List.mem_cons_self
        · exact .inl kept
      · exact .inr (List.mem_cons_of_mem _ later)

/-! ## Writing and erasing -/

theorem insert_of_notMem (entry : α) (absent : name ∉ table.names) :
    insert table name entry = table ++ [(name, entry)] := by
  induction table with
  | nil => rfl
  | cons head rest ih =>
      simp only [names, List.map_cons, List.mem_cons, not_or] at absent
      simp only [insert, if_neg (Ne.symm absent.1), ih absent.2, List.cons_append]

/-- A second entry of a name takes the place of the first. -/
theorem insert_insert (table : Table α) (name : String) (entry old : α) :
    insert (insert table name old) name entry = insert table name entry := by
  induction table with
  | nil => simp [insert]
  | cons head rest ih =>
      obtain ⟨headName, headEntry⟩ := head
      by_cases same : headName = name
      · simp [insert, same]
      · simp [insert, same, ih]

/-- Writing the entry that is there changes nothing. -/
theorem insert_of_get?_eq (found : table.get? name = some entry) :
    insert table name entry = table := by
  induction table with
  | nil => cases found
  | cons head rest ih =>
      obtain ⟨headName, headEntry⟩ := head
      by_cases same : headName = name
      · simp only [get?, if_pos same, Option.some.injEq] at found
        simp [insert, same, found]
      · simp only [get?, if_neg same] at found
        simp [insert, same, ih found]

/-- A new entry is erased without a trace. -/
theorem erase_insert (entry : α) (absent : table.get? name = none) :
    erase (insert table name entry) name = table := by
  induction table with
  | nil => simp [insert, erase]
  | cons head rest ih =>
      obtain ⟨headName, headEntry⟩ := head
      by_cases same : headName = name
      · simp [get?, same] at absent
      · simp only [get?, if_neg same] at absent
        simp [insert, erase, same, ih absent]

/-- An entry is erased before or after one of another name is written. -/
theorem erase_insert_of_ne (table : Table α) (entry : α) (different : name ≠ other) :
    erase (insert table other entry) name = insert (erase table name) other entry := by
  induction table with
  | nil => simp [insert, erase, different.symm]
  | cons head rest ih =>
      obtain ⟨headName, headEntry⟩ := head
      by_cases same : headName = name
      · subst headName
        simp [insert, erase, different]
      · by_cases sameOther : headName = other
        · subst headName
          simp [insert, erase, same]
        · simp [insert, erase, same, sameOther, ih]

/-- Entries of different names are written in either order, if one of the names is
there. -/
theorem insert_comm_of_mem (entry value : α) (present : name ∈ table.names)
    (different : name ≠ other) :
    insert (insert table other value) name entry =
      insert (insert table name entry) other value := by
  induction table with
  | nil => cases present
  | cons head rest ih =>
      obtain ⟨headName, headEntry⟩ := head
      by_cases same : headName = name
      · subst headName
        simp [insert, different]
      · have later : name ∈ names rest := by
          simpa [names, Ne.symm same] using present
        by_cases sameOther : headName = other
        · subst headName
          simp [insert, same]
        · simp [insert, same, sameOther, ih later]

theorem mem_names_insert_self (table : Table α) (name : String) (entry : α) :
    name ∈ (insert table name entry).names := by
  rw [← contains_iff, contains, get?_insert_self]
  rfl

theorem mem_names_insert (entry : α) (present : name ∈ table.names) :
    name ∈ (insert table other entry).names := by
  rw [names_insert]
  split
  · exact present
  · exact List.mem_append_left _ present

/-! ## Writing several entries -/

/-- Changes that name each entry once are what is found where they were written. -/
theorem get?_update (distinct : changes.Distinct) (table : Table α) (name : String) :
    get? (update table changes) name = (get? changes name).or (get? table name) := by
  induction changes generalizing table with
  | nil => rfl
  | cons change rest ih =>
      obtain ⟨changed, entry⟩ := change
      obtain ⟨absent, distinctRest⟩ := List.nodup_cons.1 distinct
      refine (ih distinctRest (insert table changed entry)).trans ?_
      by_cases asked : changed = name
      · subst changed
        have unwritten : get? rest name = none := (get?_eq_none_iff rest name).2 absent
        simp [get?, unwritten]
      · simp [get?, asked, get?_insert_of_ne table entry (Ne.symm asked)]

theorem update_append (table front back : Table α) :
    update table (front ++ back) = update (update table front) back :=
  List.foldl_append

/-- Of several entries of one name the last one is found where they were written. -/
theorem get?_update_reverse (table changes : Table α) (name : String) :
    get? (update table changes) name = (get? changes.reverse name).or (get? table name) := by
  induction changes generalizing table with
  | nil => rfl
  | cons change rest ih =>
      obtain ⟨changed, entry⟩ := change
      refine (ih (insert table changed entry)).trans ?_
      rw [List.reverse_cons, get?_append, Option.or_assoc]
      by_cases asked : changed = name
      · subst changed
        simp [get?]
      · simp [get?, asked, get?_insert_of_ne table entry (Ne.symm asked)]

/-- No name of a table that names each entry once is erased as a duplicate. -/
theorem eraseDups_names (distinct : table.Distinct) : table.names.eraseDups = table.names := by
  unfold Distinct at distinct
  generalize table.names = listed at distinct
  induction distinct with
  | nil => rfl
  | @cons first rest different _ ih =>
      have kept : rest.filter (fun name => !name == first) = rest := by
        rw [List.filter_eq_self]
        intro name member
        simpa using (different name member).symm
      rw [List.eraseDups_cons, kept, ih]

/-- The names of the changes follow, except those that are there already. -/
theorem names_update (distinct : table.Distinct) (changes : Table α) :
    names (update table changes) = (table.names ++ changes.names).eraseDups := by
  induction changes generalizing table with
  | nil =>
      have unchanged : names ([] : Table α) = [] := rfl
      rw [unchanged, List.append_nil, eraseDups_names distinct]
      rfl
  | cons change rest ih =>
      obtain ⟨changed, entry⟩ := change
      refine (ih (distinct.insert changed entry)).trans ?_
      have next : names ((changed, entry) :: rest) = changed :: names rest := rfl
      rw [names_insert, next]
      split
      next present =>
        simp [List.eraseDups_append, List.removeAll, present]
      next => rw [List.append_assoc, List.singleton_append]

/-- Changes of other names than those of the table are appended. -/
theorem update_eq_append (distinct : Distinct (table ++ changes)) :
    update table changes = table ++ changes := by
  induction changes generalizing table with
  | nil => exact (List.append_nil table).symm
  | cons change rest ih =>
      have absent : change.1 ∉ table.names := by
        rw [Distinct, names, List.map_append, List.map_cons, List.nodup_append] at distinct
        intro member
        exact distinct.2.2 _ member _ List.mem_cons_self rfl
      rw [List.append_cons] at distinct ⊢
      refine Eq.trans ?_ (ih distinct)
      rw [update, List.foldl_cons, insert_of_notMem _ absent]
      rfl

/-- Layers written one over the other: the last one that names an entry is found. -/
theorem get?_foldl_update {layers : List (Table α)} (distinct : ∀ layer ∈ layers, Distinct layer)
    (table : Table α) (name : String) :
    get? (layers.foldl update table) name =
      (layers.reverse.findSome? (get? · name)).or (get? table name) := by
  induction layers generalizing table with
  | nil => rfl
  | cons layer rest ih =>
      obtain ⟨first, distinctRest⟩ := List.forall_mem_cons.1 distinct
      rw [List.foldl_cons, ih distinctRest, get?_update first, List.reverse_cons,
        List.findSome?_append, Option.or_assoc]
      simp

/-- The names of layers stand where the layers first bring them in. -/
theorem names_foldl_update (distinct : table.Distinct) (layers : List (Table α)) :
    names (layers.foldl update table) = (table.names ++ layers.flatMap names).eraseDups := by
  have written : layers.foldl update table = update table layers.flatten := by
    simp only [update, List.foldl_flatten]
    rfl
  rw [written, names_update distinct, names, names, List.map_flatten, List.flatMap]
  rfl

end PageTree.Table
