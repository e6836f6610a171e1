import PageTree.Proofs.Styles

/-!
# Composing themes

Themes are put over each other, and so are the records in them.  Both are done alike: the
entries of one ordered table are brought into another one by one, each of them combined with
the entry that its name has there (`Table.updateWith`).  For records the later entry wins; for
themes the two entries are records and are merged in their turn.

So associativity is shown once, for all ways to combine entries (`Table.updateWith_updateWith`):
two tables may be put over each other first and over a third one together.  It is used at
both levels, and what it asks of the entries of a theme is what it says of records.  The
induction is on the table that is put on top.  Its entries meet a name that the table in the
middle has, in its place, or that it lacks, at the end.
-/

namespace PageTree

/-! ## Combining entries -/

namespace Table

variable {α : Type} {Sound : α → Prop} {combine : Option α → α → α}
variable {table changes middle : Table α} {name other : String} {entry value : α}

/-- Bring an entry in, combined with the entry that its name has. -/
def insertWith (combine : Option α → α → α) (table : Table α) (name : String) (entry : α) :
    Table α :=
  insert table name (combine (get? table name) entry)

/-- Bring in all entries of `changes`, in their order. -/
def updateWith (combine : Option α → α → α) (table changes : Table α) : Table α :=
  changes.foldl (fun result change => insertWith combine result change.1 change.2) table

/-- Combining entries makes sound ones of sound ones and is associative, as far as the entry in
the middle is sound.  It makes no difference whether a new entry was combined with nothing
before. -/
structure Combines (Sound : α → Prop) (combine : Option α → α → α) : Prop where
  sound : ∀ old new, (∀ entry ∈ old, Sound entry) → Sound (combine old new)
  again : ∀ old new, combine old (combine none new) = combine old new
  assoc : ∀ old between new, Sound between →
    combine (some (combine old between)) new = combine old (combine (some between) new)

/-- The later entry wins. -/
theorem combines_later : Combines (fun _ : α => True) fun _ new => new :=
  ⟨fun _ _ _ => trivial, fun _ _ => rfl, fun _ _ _ _ => rfl⟩

theorem updateWith_later (table changes : Table α) :
    updateWith (fun _ new => new) table changes = update table changes := rfl

/-- What is combined with the entry of a name is combined with that of this name alone. -/
theorem insertWith_comm (present : name ∈ table.names) (different : name ≠ other) :
    insertWith combine (insertWith combine table other value) name entry =
      insertWith combine (insertWith combine table name entry) other value := by
  simp only [insertWith]
  rw [get?_insert_of_ne _ _ different, get?_insert_of_ne _ _ different.symm,
    insert_comm_of_mem _ _ present different]

/-- An entry of a name that is there may be brought in before entries of other names. -/
theorem insertWith_updateWith (present : name ∈ table.names) (absent : name ∉ changes.names) :
    insertWith combine (updateWith combine table changes) name entry =
      updateWith combine (insertWith combine table name entry) changes := by
  induction changes generalizing table with
  | nil => rfl
  | cons change rest ih =>
      obtain ⟨other, value⟩ := change
      obtain ⟨different, absentRest⟩ : name ≠ other ∧ name ∉ names rest := by
        simpa [names] using absent
      have later : insertWith combine
          (updateWith combine (insertWith combine table other value) rest) name entry =
            updateWith combine
              (insertWith combine (insertWith combine table other value) name entry) rest :=
        ih (mem_names_insert _ present) absentRest
      rw [insertWith_comm present different] at later
      exact later

/-- Two entries of one name are combined in a table, or with each other first. -/
theorem Combines.insertWith_insertWith (combines : Combines Sound combine)
    (soundValue : Sound value) (table : Table α) (name : String) (entry : α) :
    insertWith combine (insertWith combine table name value) name entry =
      insertWith combine table name (combine (some value) entry) := by
  simp only [insertWith, get?_insert_self, insert_insert]
  rw [combines.assoc _ _ _ soundValue]

/-- One more entry is brought into a table by way of the changes, or behind them. -/
theorem Combines.updateWith_insertWith (combines : Combines Sound combine)
    (distinct : changes.Distinct) (sound : ∀ change ∈ changes, Sound change.2)
    (table : Table α) (name : String) (entry : α) :
    updateWith combine table (insertWith combine changes name entry) =
      insertWith combine (updateWith combine table changes) name entry := by
  induction changes generalizing table with
  | nil => exact congrArg (insert table name) (combines.again (get? table name) entry)
  | cons change rest ih =>
      obtain ⟨changed, value⟩ := change
      obtain ⟨absent, distinctRest⟩ := List.nodup_cons.1 distinct
      obtain ⟨soundValue, soundRest⟩ := List.forall_mem_cons.1 sound
      by_cases same : changed = name
      · subst changed
        have inPlace : insertWith combine ((name, value) :: rest) name entry =
            (name, combine (some value) entry) :: rest := by
          simp [insertWith, insert, get?]
        have present : name ∈ names (insertWith combine table name value) :=
          mem_names_insert_self _ _ _
        have moved : insertWith combine
            (updateWith combine (insertWith combine table name value) rest) name entry =
              updateWith combine
                (insertWith combine (insertWith combine table name value) name entry) rest :=
          insertWith_updateWith present absent
        rw [combines.insertWith_insertWith soundValue] at moved
        rw [inPlace]
        exact moved.symm
      · have behind : insertWith combine ((changed, value) :: rest) name entry =
            (changed, value) :: insertWith combine rest name entry := by
          simp [insertWith, insert, get?, same]
        rw [behind]
        exact ih distinctRest soundRest (insertWith combine table changed value)

/-- Tables are put over each other in either order. -/
theorem Combines.updateWith_updateWith (combines : Combines Sound combine)
    (distinct : middle.Distinct) (sound : ∀ field ∈ middle, Sound field.2)
    (table changes : Table α) :
    updateWith combine table (updateWith combine middle changes) =
      updateWith combine (updateWith combine table middle) changes := by
  induction changes generalizing middle with
  | nil => rfl
  | cons change rest ih =>
      obtain ⟨name, entry⟩ := change
      have soundEntry : Sound (combine (get? middle name) entry) :=
        combines.sound _ _ fun old found => sound _ (mem_of_get?_eq found)
      have soundGrown : ∀ field ∈ insertWith combine middle name entry, Sound field.2 := by
        intro field member
        rcases mem_insert member with rfl | kept
        · exact soundEntry
        · exact sound field kept
      have grown : updateWith combine table
          (updateWith combine (insertWith combine middle name entry) rest) =
            updateWith combine (updateWith combine table (insertWith combine middle name entry))
              rest :=
        ih (distinct.insert name _) soundGrown
      rw [combines.updateWith_insertWith distinct sound] at grown
      exact grown

/-- A table that is put over itself stays as it is, if its entries do. -/
theorem updateWith_self (distinct : table.Distinct)
    (same : ∀ field ∈ table, combine (some field.2) field.2 = field.2) :
    updateWith combine table table = table := by
  have unchanged : ∀ changes : Table α, (∀ change ∈ changes, change ∈ table) →
      updateWith combine table changes = table := by
    intro changes known
    induction changes with
    | nil => rfl
    | cons change rest ih =>
        obtain ⟨member, knownRest⟩ := List.forall_mem_cons.1 known
        have found := get?_of_mem distinct member
        have written : insertWith combine table change.1 change.2 = table := by
          rw [insertWith, found, same change member, insert_of_get?_eq found]
        rw [updateWith, List.foldl_cons, written]
        exact ih knownRest
  exact unchanged table fun _ member => member

/-- The names of the changes follow, except those that are there already. -/
theorem names_updateWith (distinct : changes.Distinct) (table : Table α) :
    names (updateWith combine table changes) =
      table.names ++ changes.names.filter (· ∉ table.names) := by
  induction changes generalizing table with
  | nil => exact (List.append_nil _).symm
  | cons change rest ih =>
      obtain ⟨changed, value⟩ := change
      obtain ⟨absent, distinctRest⟩ := List.nodup_cons.1 distinct
      have next : names ((changed, value) :: rest) = changed :: names rest := rfl
      refine (ih distinctRest (insertWith combine table changed value)).trans ?_
      rw [insertWith, names_insert, next]
      split
      next present => simp [present]
      next missing =>
        have others : ∀ name ∈ names rest, name ≠ changed := by
          rintro name member rfl
          exact absent member
        have kept : (names rest).filter (· ∉ table.names ++ [changed]) =
            (names rest).filter (· ∉ table.names) := by
          apply List.filter_congr
          intro name member
          simp [others name member]
        rw [kept, List.filter_cons_of_pos (by simpa using missing), List.append_assoc,
          List.singleton_append]

/-- Tables are written over each other in either order. -/
theorem update_update (distinct : middle.Distinct) (table changes : Table α) :
    update table (update middle changes) = update (update table middle) changes :=
  combines_later.updateWith_updateWith distinct (fun _ _ => trivial) table changes

/-- A table that is written over itself stays as it is. -/
theorem update_self (distinct : table.Distinct) : update table table = table := by
  rw [← updateWith_later]
  exact updateWith_self distinct fun _ _ => rfl

end Table

/-! ## Themes over themes -/

namespace Theme

variable {first : Theme}

/-- The way in which a record of a theme is combined with one that is put over it. -/
def combineRecords (old : Option Record) (new : Record) : Record :=
  mergeStyle (old.getD []) new

/-- Records that repeat no key are merged in either order. -/
theorem combines_records : Table.Combines Table.Distinct combineRecords where
  sound old new distinct := by
    cases old with
    | none => exact Table.distinct_ofEntries new
    | some record => exact (distinct record rfl).update new
  again old new :=
    have empty : Table.Distinct ([] : Record) := List.nodup_nil
    Table.update_update empty (old.getD []) new
  assoc old between new distinct := (Table.update_update distinct (old.getD []) new).symm

theorem extend_eq_updateWith (theme overrides : Theme) :
    theme.extend overrides = Table.updateWith combineRecords theme overrides := rfl

/-- How themes compose.  Two tables of records may be put over a theme one after the other, or
over each other first: the theme is the same, in the order of its names and of the keys of its
records too.  An empty table changes nothing, and neither does a table that has been put over
the theme already.  The names that a table brings in follow those of the theme, and its records
are merged over those of the theme; so a component has the style that it would have in the
theme itself if it asked for the record of its type before its own style, except that the names
of other parts of the page are no types to style. -/
theorem extend_composes (theme second : Theme) (distinct : first.Distinct)
    (distinctRecords : ∀ entry ∈ first, Table.Distinct entry.2) :
    (theme.extend first).extend second = theme.extend (first.extend second) ∧
      theme.extend [] = theme ∧
      (theme.extend first).extend first = theme.extend first ∧
      (theme.extend first).names = theme.names ++ first.names.filter (· ∉ theme.names) ∧
      ∀ type, (theme.extend first).base type = mergeStyle (theme.base type) (first.base type) ∧
        ∀ override, (theme.extend first).resolve type override =
          if type ∈ chrome then theme.resolve type override
          else theme.resolve type (mergeStyle (first.base type) override) := by
  have composed (changes : Theme) :
      theme.extend (first.extend changes) = (theme.extend first).extend changes :=
    combines_records.updateWith_updateWith distinct distinctRecords theme changes
  refine ⟨(composed second).symm, rfl, ?_, ?_, ?_⟩
  · have unchanged : first.extend first = first := by
      rw [extend_eq_updateWith]
      exact Table.updateWith_self distinct fun entry member =>
        Table.update_self (distinctRecords entry member)
    rw [← composed, unchanged]
  · rw [extend_eq_updateWith]
    exact Table.names_updateWith distinct theme
  · intro type
    have merged := base_extend distinct theme type
    refine ⟨merged, ?_⟩
    intro override
    have empty : Table.Distinct ([] : Record) := List.nodup_nil
    have distinctBase := base_of_forall empty distinctRecords type
    unfold resolve
    split
    · rfl
    · rw [merged]
      exact (Table.update_update distinctBase (theme.base type) override).symm

/-- Three themes that share names and keys, with a name of the page among them. -/
theorem extend_composes_with_overlaps :
    let theme : Theme := [("page", [("flex", .int 1)]),
      ("text", [("size", .int 16), ("color", .string "black")])]
    let first : Theme := [("note", [("pad", .int 2)]),
      ("text", [("bold", .bool true), ("size", .int 14)]), ("page", [("flex", .int 3)])]
    let second : Theme := [("text", [("color", .null), ("bold", .bool false)]),
      ("card", []), ("note", [("edge", .int 1), ("pad", .int 4)])]
    first.Distinct ∧ (∀ entry ∈ first, Table.Distinct entry.2) ∧
      theme.extend (first.extend second) = [("page", [("flex", .int 3)]),
        ("text", [("size", .int 14), ("color", .null), ("bold", .bool false)]),
        ("note", [("pad", .int 4), ("edge", .int 1)]), ("card", [])] ∧
      (theme.extend first).names = ["page", "text", "note"] ∧
      ((theme.extend first).extend first).resolve "text" [("size", .int 9), ("top", .int 0)] =
        [("size", .int 9), ("color", .string "black"), ("bold", .bool true), ("top", .int 0)] ∧
      (theme.extend first).resolve "page" [("top", .int 0)] = [("top", .int 0)] := by
  intro theme first second
  have distinct : first.Distinct := by decide
  have distinctRecords : ∀ entry ∈ first, Table.Distinct entry.2 := by decide
  obtain ⟨composed, -, again, names, styles⟩ :=
    extend_composes theme second distinct distinctRecords
  refine ⟨distinct, distinctRecords, composed.symm, names, ?_, (styles "page").2 _⟩
  rw [again]
  exact (styles "text").2 _

end Theme

end PageTree
