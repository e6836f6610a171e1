import PageTree.Proofs.Json.LineBreaks
import PageTree.Theme.File

/-!
# Loading theme files

A theme file is an object of objects in the strict format, as text in UTF-8 with line breaks
of any system, and no other file is accepted (`ThemeFile.load_by_stages`).  Every stage of
loading refuses what it cannot use, with an error that names the stage, but for the decoding
of the bytes: what is not UTF-8 is not refused, and the error of the decoder gets through
(`ThemeError.IsRefusal`, `ThemeFile.load_lone_byte`).
-/

namespace PageTree

/-! ## Bytes -/

namespace Text

variable {bytes : List UInt8} {text : String}

/-- A text in UTF-8. -/
def utf8 (text : String) : List UInt8 :=
  text.toUTF8.data.toList

theorem fromUTF8?_eq_some_iff :
    String.fromUTF8? ⟨bytes.toArray⟩ = some text ↔ bytes = utf8 text := by
  constructor
  · intro decoded
    unfold String.fromUTF8? at decoded
    split at decoded
    · cases decoded
      rfl
    · cases decoded
  · rintro rfl
    exact dif_pos text.isValidUTF8

theorem utf8_inj {other : String} : utf8 text = utf8 other ↔ text = other := by
  constructor
  · intro same
    exact String.toByteArray_inj.1 (ByteArray.ext (Array.toList_inj.1 same))
  · exact congrArg utf8

end Text

/-! ## Shapes -/

/-- A theme is an object whose fields are the theme's records. -/
theorem Theme.ofFields?_eq_ok_iff {fields : Record} {theme : Theme} :
    Theme.ofFields? fields = .ok theme ↔ fields = Table.mapEntries theme Value.object := by
  induction fields generalizing theme with
  | nil => cases theme <;> simp [Theme.ofFields?, Table.mapEntries]
  | cons field rest ih =>
      obtain ⟨name, item⟩ := field
      cases item with
      | object record =>
          constructor
          · intro accepted
            rw [Theme.ofFields?] at accepted
            split at accepted
            next others acceptedRest =>
              cases accepted
              exact congrArg ((name, Value.object record) :: ·) (ih.1 acceptedRest)
            next => cases accepted
          · intro same
            cases theme with
            | nil => cases same
            | cons entry others =>
                obtain ⟨sameField, sameRest⟩ := List.cons.inj same
                cases sameField
                rw [Theme.ofFields?, ih.2 sameRest]
      | _ => cases theme <;> simp [Theme.ofFields?, Table.mapEntries]

theorem Theme.ofValue?_eq_ok_iff {value : Value} {theme : Theme} :
    Theme.ofValue? value = .ok theme ↔ value = .object (Table.mapEntries theme Value.object) := by
  cases value with
  | object fields => rw [Theme.ofValue?, Theme.ofFields?_eq_ok_iff, Value.object.injEq]
  | _ => simp [Theme.ofValue?]

/-- The errors by which a theme file is refused.  The one left out is the error of the decoder,
which nobody turns into a refusal. -/
def ThemeError.IsRefusal : ThemeError → Prop
  | notText => False
  | missing _ | directory _ | document _ _ | shape _ => True

namespace ThemeFile

variable {bytes : List UInt8} {text : String} {path : String} {file : ThemeFile}
variable {value : Value} {theme : Theme} {extendStandard : Bool}

/-- Bytes that are the UTF-8 of no text. -/
def Undecodable (bytes : List UInt8) : Prop :=
  ∀ text, bytes ≠ Text.utf8 text

theorem decode?_utf8 (text : String) :
    decode? (Text.utf8 text) = some (String.ofList (Text.unifyBreaks text.toList)) := by
  rw [decode?, Text.fromUTF8?_eq_some_iff.2 rfl]
  rfl

theorem decode?_eq_none_iff : decode? bytes = none ↔ Undecodable bytes := by
  rw [decode?, Option.map_eq_none_iff, Option.eq_none_iff_forall_ne_some]
  simp only [ne_eq, Text.fromUTF8?_eq_some_iff]
  rfl

/-- What stands at a path: nothing, a directory, a text, or other bytes. -/
theorem cases_of_text (file : ThemeFile) :
    file = .missing ∨ file = .directory ∨ (∃ text, file = .regular (Text.utf8 text)) ∨
      ∃ bytes, file = .regular bytes ∧ Undecodable bytes := by
  cases file with
  | missing => exact .inl rfl
  | directory => exact .inr (.inl rfl)
  | regular bytes =>
      refine .inr (.inr ?_)
      by_cases decodable : ∃ text, bytes = Text.utf8 text
      · obtain ⟨text, rfl⟩ := decodable
        exact .inl ⟨text, rfl⟩
      · exact .inr ⟨bytes, rfl, not_exists.1 decodable⟩

/-! ## The stages of loading -/

/-- The theme in a text whose lines may end in any way, and the stage that refuses it. -/
def ofText (path : String) (extendStandard : Bool) (text : String) : Except ThemeError Theme :=
  match Document.read .none text false with
  | .error reason => .error (.document path reason)
  | .ok value =>
      match Theme.ofValue? value with
      | .error reason => .error (.shape reason)
      | .ok records => .ok (if extendStandard then Theme.standard.extend records else records)

theorem ofText_eq_ok_iff :
    ofText path extendStandard text = .ok theme ↔
      ∃ records,
        Document.read .none text false = .ok (.object (Table.mapEntries records Value.object)) ∧
        theme = if extendStandard then Theme.standard.extend records else records := by
  rw [ofText]
  cases Document.read .none text false with
  | error reason => simp
  | ok value =>
      simp only [Except.ok.injEq, ← Theme.ofValue?_eq_ok_iff]
      cases Theme.ofValue? value <;> simp [eq_comm]

theorem ofText_eq_document_iff {reason : DocumentError} :
    ofText path extendStandard text = .error (.document path reason) ↔
      Document.read .none text false = .error reason := by
  rw [ofText]
  cases Document.read .none text false with
  | error reason => simp
  | ok value =>
      dsimp only
      cases Theme.ofValue? value <;> simp

theorem ofText_eq_shape_iff {reason : ThemeShapeError} :
    ofText path extendStandard text = .error (.shape reason) ↔
      ∃ value, Document.read .none text false = .ok value ∧
        Theme.ofValue? value = .error reason := by
  rw [ofText]
  cases Document.read .none text false with
  | error reason => simp
  | ok value =>
      simp only [Except.ok.injEq, exists_eq_left']
      cases Theme.ofValue? value <;> simp

/-- The two ways to refuse a text are the only errors that it leads to. -/
theorem ofText_cases (path : String) (extendStandard : Bool) (text : String) :
    (∃ sheet, ofText path extendStandard text = .ok sheet) ∨
      (∃ reason, ofText path extendStandard text = .error (.document path reason)) ∨
      ∃ reason, ofText path extendStandard text = .error (.shape reason) := by
  rw [ofText]
  cases Document.read .none text false with
  | error reason => exact .inr (.inl ⟨reason, rfl⟩)
  | ok value =>
      dsimp only
      cases Theme.ofValue? value with
      | error reason => exact .inr (.inr ⟨reason, rfl⟩)
      | ok records => exact .inl ⟨_, rfl⟩

theorem load_missing (path : String) (extendStandard : Bool) :
    (missing.load path extendStandard).2 = .error (.missing path) := rfl

theorem load_directory (path : String) (extendStandard : Bool) :
    (directory.load path extendStandard).2 = .error (.directory path) := rfl

theorem load_utf8 (path : String) (extendStandard : Bool) (text : String) :
    ((regular (Text.utf8 text)).load path extendStandard).2 = ofText path extendStandard text := by
  rw [load, theme, read, decode?_utf8]
  dsimp only
  rw [Document.read_unifyBreaks, ofText]
  cases Document.read .none text false with
  | error reason => rfl
  | ok value =>
      dsimp only
      cases Theme.ofValue? value <;> rfl

theorem load_of_undecodable (path : String) (extendStandard : Bool)
    (undecodable : Undecodable bytes) :
    ((regular bytes).load path extendStandard).2 = .error .notText := by
  rw [load, theme, read, decode?_eq_none_iff.2 undecodable]

theorem not_undecodable_utf8 (text : String) : ¬Undecodable (Text.utf8 text) :=
  fun undecodable => undecodable text rfl

/-- What a theme file is loaded as, stage by stage.  A theme is loaded exactly from UTF-8 text
of the strict format, in a fence or not, that denotes an object whose fields are all objects,
and it is the table of them, or the built-in theme extended by it.  A path without a file, a
directory, a text of another format and data of another shape are refused by their own errors.
Nothing else happens, except that bytes which are not UTF-8 are an error but no refusal. -/
theorem load_by_stages (path : String) (file : ThemeFile) (extendStandard : Bool) :
    let loaded := (file.load path extendStandard).2
    (∀ sheet, loaded = .ok sheet ↔ ∃ text records, file = .regular (Text.utf8 text) ∧
        Document.read .none text false = .ok (.object (Table.mapEntries records Value.object)) ∧
        sheet = if extendStandard then Theme.standard.extend records else records) ∧
      (loaded = .error (.missing path) ↔ file = .missing) ∧
      (loaded = .error (.directory path) ↔ file = .directory) ∧
      (∀ reason, loaded = .error (.document path reason) ↔
        ∃ text, file = .regular (Text.utf8 text) ∧
          Document.read .none text false = .error reason) ∧
      (∀ reason, loaded = .error (.shape reason) ↔
        ∃ text value, file = .regular (Text.utf8 text) ∧
          Document.read .none text false = .ok value ∧ Theme.ofValue? value = .error reason) ∧
      (loaded = .error .notText ↔ ∃ bytes, file = .regular bytes ∧ Undecodable bytes) ∧
      (((∃ sheet, loaded = .ok sheet) ∨ ∃ reason, loaded = .error reason ∧ reason.IsRefusal) ↔
        ¬∃ bytes, file = .regular bytes ∧ Undecodable bytes) := by
  intro loaded
  rcases cases_of_text file with rfl | rfl | ⟨text, rfl⟩ | ⟨bytes, rfl, undecodable⟩
  · simp [loaded, load_missing, ThemeError.IsRefusal]
  · simp [loaded, load_directory, ThemeError.IsRefusal]
  · have found : loaded = ofText path extendStandard text := load_utf8 path extendStandard text
    have decodable := not_undecodable_utf8 text
    have answered : loaded ≠ .error (.missing path) ∧ loaded ≠ .error (.directory path) ∧
        loaded ≠ .error .notText ∧
        ((∃ sheet, loaded = .ok sheet) ∨ ∃ reason, loaded = .error reason ∧ reason.IsRefusal) := by
      rcases ofText_cases path extendStandard text with ⟨_, same⟩ | ⟨_, same⟩ | ⟨_, same⟩ <;>
        simp [found, same, ThemeError.IsRefusal]
    obtain ⟨present, noDirectory, isText, refused⟩ := answered
    refine ⟨fun sheet => ?_, ?_, ?_, fun reason => ?_, fun reason => ?_, ?_, ?_⟩
    · simp [found, ofText_eq_ok_iff, Text.utf8_inj]
    · simp [present]
    · simp [noDirectory]
    · simp [found, ofText_eq_document_iff, Text.utf8_inj]
    · simp [found, ofText_eq_shape_iff, Text.utf8_inj]
    · simp [isText, decodable]
    · simp [refused, decodable]
  · have found : loaded = .error .notText := load_of_undecodable path extendStandard undecodable
    have noText : ∀ text, bytes ≠ Text.utf8 text := undecodable
    simp [found, noText, ThemeError.IsRefusal, undecodable]

/-- A file of one byte that no text in UTF-8 has: loading it neither gives a theme nor refuses
the file. -/
theorem load_lone_byte :
    let loaded := ((regular [0xff]).load "theme.json" true).2
    loaded = .error .notText ∧
      ¬((∃ sheet, loaded = .ok sheet) ∨ ∃ reason, loaded = .error reason ∧ reason.IsRefusal) := by
  intro loaded
  have undecodable : Undecodable [0xff] := decode?_eq_none_iff.1 (by decide +kernel)
  have found : loaded = .error .notText := load_of_undecodable "theme.json" true undecodable
  simp [found, ThemeError.IsRefusal]

end ThemeFile

end PageTree
