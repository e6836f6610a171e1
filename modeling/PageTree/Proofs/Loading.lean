import Mathlib.Data.String.Basic
import PageTree.Descriptor
import PageTree.Proofs.Json.Closure
import PageTree.Proofs.Position

/-!
# Loading page descriptors

Three stages decide what becomes of a text: its size in bytes, whether it can be read, and
whether what it denotes describes a page.  The first two are reported when they fail; the
third is not.

How texts are mended that are not of the strict format is left open: the `Mender` may rewrite
the text and read the result, or do anything else.  All that matters is that the strict
attempts come first.  So a greater limit and the permission to mend never change what has
been loaded, and what was loaded without mending is writable, so that it can be loaded again
from its own text (`Descriptor.load_exact`).
-/

namespace PageTree

namespace Text

/-- How many bytes a text has in UTF-8: one to four for each character. -/
def byteCount (text : String) : Nat :=
  String.utf8Len text.toList

theorem utf8ByteSize_eq_byteCount (text : String) : text.utf8ByteSize = byteCount text := by
  rw [byteCount, ← String.utf8ByteSize_ofList, String.ofList_toList]

end Text

variable {mend : Mender} {text : String} {value : Value}

/-! ## Reading -/

namespace Document

open Json

variable {repair later : Bool}

/-- What has been read is read alike when mending is permitted. -/
theorem read_mono (read : Document.read mend text repair = .ok value)
    (permitted : later = repair ∨ repair = false ∧ later = true) :
    Document.read mend text later = .ok value := by
  rcases permitted with rfl | ⟨rfl, rfl⟩
  · exact read
  · exact read_of_readStrict? (read_false_eq_ok_iff.1 read) true

end Document

/-! ## Loading -/

namespace Descriptor

variable {settings : Settings} {descriptor : Descriptor} {reason : DocumentError}

/-- The text does not exceed the limit on its size. -/
def Fits (settings : Settings) (text : String) : Prop :=
  Text.byteCount text ≤ settings.maxDescriptorBytes

instance (settings : Settings) (text : String) : Decidable (Fits settings text) :=
  inferInstanceAs (Decidable (_ ≤ _))

/-- The error of a text that exceeds the limit. -/
def tooLarge (settings : Settings) (text : String) : DocumentError :=
  .oversized "Page descriptor" (Text.byteCount text) settings.maxDescriptorBytes

/-- The size alone decides whether a text is read at all. -/
theorem decode_eq (mend : Mender) (settings : Settings) (text : String) :
    decode mend settings text =
      if Fits settings text then Document.read mend text settings.repairJson
      else .error (tooLarge settings text) := by
  unfold decode Document.checkSize
  rw [Text.utf8ByteSize_eq_byteCount]
  by_cases fits : Fits settings text
  · have small : ¬(Text.byteCount text : Int) > settings.maxDescriptorBytes := by
      simpa [Fits] using fits
    rw [if_neg small, if_pos fits]
  · have large : (Text.byteCount text : Int) > settings.maxDescriptorBytes := by
      simpa [Fits] using fits
    rw [if_pos large, if_neg fits]
    rfl

theorem decode_eq_ok_iff :
    decode mend settings text = .ok value ↔
      Fits settings text ∧ Document.read mend text settings.repairJson = .ok value := by
  rw [decode_eq]
  by_cases fits : Fits settings text <;> simp [fits]

theorem exists_decode_eq_error_iff :
    (∃ reason, decode mend settings text = .error reason) ↔
      ¬Fits settings text ∨
        ∃ reason, Document.read mend text settings.repairJson = .error reason := by
  rw [decode_eq]
  by_cases fits : Fits settings text <;> simp [fits]

theorem load_of_decoded (decoded : decode mend settings text = .ok value) :
    load mend settings text = ([], ofValue? value) := by
  rw [load, decoded]

theorem load_of_undecoded (undecoded : decode mend settings text = .error reason) :
    load mend settings text =
      ([.descriptorDecodeFailed reason.message], .error (.undecodable reason)) := by
  rw [load, undecoded]

theorem ofValue?_eq_ok_iff : ofValue? value = .ok descriptor ↔ value = descriptor.toValue := by
  constructor
  · intro described
    cases value <;> cases described <;> rfl
  · rintro rfl
    exact ofValue?_toValue descriptor

/-- Data that describes no page is named by its kind. -/
theorem ofValue?_eq_error_iff {refused : DescriptorError} :
    ofValue? value = .error refused ↔
      value.isScalar = true ∧ refused = .wrongKind value.kindName := by
  cases value <;> simp [ofValue?, Value.isScalar, eq_comm]

/-- A descriptor is loaded from a text that fits and that is read as its data. -/
theorem load_eq_ok_iff :
    (load mend settings text).2 = .ok descriptor ↔
      Fits settings text ∧
        Document.read mend text settings.repairJson = .ok descriptor.toValue := by
  rw [← decode_eq_ok_iff]
  cases decoded : decode mend settings text with
  | error reason => simp [load_of_undecoded decoded]
  | ok value => simp [load_of_decoded decoded, ofValue?_eq_ok_iff]

/-- Nothing is reported of such a text. -/
theorem load_of_fits (fits : Fits settings text)
    (read : Document.read mend text settings.repairJson = .ok descriptor.toValue) :
    load mend settings text = ([], .ok descriptor) := by
  rw [load_of_decoded (decode_eq_ok_iff.2 ⟨fits, read⟩), ofValue?_toValue]

/-! ## The three stages -/

/-- Whatever becomes of a text, it is one of two things. -/
theorem load_cases (mend : Mender) (settings : Settings) (text : String) :
    (∃ descriptor, (load mend settings text).2 = .ok descriptor ∧
      (descriptor.toValue = .null ∨ (∃ fields, descriptor.toValue = .object fields) ∨
        ∃ components, descriptor.toValue = .array components)) ∨
      ∃ refused, (load mend settings text).2 = .error refused := by
  cases (load mend settings text).2 with
  | error refused => exact .inr ⟨refused, rfl⟩
  | ok descriptor =>
      refine .inl ⟨descriptor, rfl, ?_⟩
      cases descriptor with
      | missing => exact .inl rfl
      | object fields => exact .inr (.inl ⟨fields, rfl⟩)
      | list components => exact .inr (.inr ⟨components, rfl⟩)

/-- The first two stages are reported when they fail, and nothing else is. -/
theorem load_reports (mend : Mender) (settings : Settings)
    (text : String) :
    ((∃ message, (load mend settings text).1 = [.descriptorDecodeFailed message]) ↔
        ¬Fits settings text ∨
          ∃ reason, Document.read mend text settings.repairJson = .error reason) ∧
      ((load mend settings text).1 = [] ↔
        Fits settings text ∧
          ∃ value, Document.read mend text settings.repairJson = .ok value) := by
  simp only [← exists_decode_eq_error_iff, ← exists_and_left, ← decode_eq_ok_iff]
  cases decoded : decode mend settings text with
  | error reason => simp [load_of_undecoded decoded]
  | ok value => simp [load_of_decoded decoded]

/-- Data of another kind is refused by the last stage. -/
theorem load_eq_wrongKind_iff {kind : String} :
    (load mend settings text).2 = .error (.wrongKind kind) ↔
      Fits settings text ∧ ∃ value,
        Document.read mend text settings.repairJson = .ok value ∧
          value.isScalar = true ∧ kind = value.kindName := by
  simp only [← exists_and_left, ← and_assoc, ← decode_eq_ok_iff]
  cases decoded : decode mend settings text with
  | error reason => simp [load_of_undecoded decoded]
  | ok value => simp [load_of_decoded decoded, ofValue?_eq_error_iff]

theorem load_of_not_fits (large : ¬Fits settings text) :
    load mend settings text =
      ([.descriptorDecodeFailed (tooLarge settings text).message],
        .error (.undecodable (tooLarge settings text))) := by
  apply load_of_undecoded
  rw [decode_eq, if_neg large]

/-- A greater limit and the permission to mend leave what has been loaded as it is. -/
theorem load_mono {later : Settings}
    (loaded : (load mend settings text).2 = .ok descriptor)
    (greater : settings.maxDescriptorBytes ≤ later.maxDescriptorBytes)
    (permitted : later.repairJson = settings.repairJson ∨
      settings.repairJson = false ∧ later.repairJson = true) :
    load mend later text = ([], .ok descriptor) := by
  obtain ⟨fits, read⟩ := load_eq_ok_iff.1 loaded
  exact load_of_fits (Nat.le_trans fits greater) (Document.read_mono read permitted)

/-- What was loaded without mending is loaded again from its own text. -/
theorem load_dump {later : Settings} (indent : Int) (strict : settings.repairJson = false)
    (loaded : (load mend settings text).2 = .ok descriptor)
    (fits : Fits later (Json.dump descriptor.toValue indent)) :
    load mend later (Json.dump descriptor.toValue indent) = ([], .ok descriptor) := by
  obtain ⟨-, read⟩ := load_eq_ok_iff.1 loaded
  rw [strict] at read
  have writable := Document.writable_of_read read
  have accepted := Document.readStrict?_dump writable.distinct writable.finite indent
  exact load_of_fits fits (Document.read_of_readStrict? accepted _)

/-- Loading is exact, and monotone in the settings, however texts are mended that are not of
the strict format.

A text is loaded as null, an object or an array, or it is refused.  It is loaded as a
descriptor exactly when its bytes are within the limit and it is read as the data of that
descriptor; beyond the limit it is refused whatever it holds.  Exactly a text that is too
large or cannot be read is reported, and one that is read as data of another kind is not.
What is loaded is also loaded with any greater limit, and when mending is permitted that was
not; and what is loaded without mending is loaded again from its own text, with any
indentation and under all settings whose limit that text meets. -/
theorem load_exact (mend : Mender) (settings : Settings) (text : String) :
    let loaded := load mend settings text
    let size := Text.byteCount text
    let read := Document.read mend text settings.repairJson
    ((∃ descriptor, loaded.2 = .ok descriptor ∧
        (descriptor.toValue = .null ∨ (∃ fields, descriptor.toValue = .object fields) ∨
          ∃ components, descriptor.toValue = .array components)) ∨
        ∃ refused, loaded.2 = .error refused) ∧
      (∀ descriptor, loaded.2 = .ok descriptor ↔
        size ≤ settings.maxDescriptorBytes ∧ read = .ok descriptor.toValue) ∧
      (settings.maxDescriptorBytes < size →
        let reason := .oversized "Page descriptor" size settings.maxDescriptorBytes
        loaded = ([.descriptorDecodeFailed reason.message], .error (.undecodable reason))) ∧
      ((∃ message, loaded.1 = [.descriptorDecodeFailed message]) ↔
        settings.maxDescriptorBytes < size ∨ ∃ reason, read = .error reason) ∧
      (loaded.1 = [] ↔
        size ≤ settings.maxDescriptorBytes ∧ ∃ value, read = .ok value) ∧
      (∀ kind, loaded.2 = .error (.wrongKind kind) ↔
        size ≤ settings.maxDescriptorBytes ∧ ∃ value, read = .ok value ∧
          value.isScalar = true ∧ kind = value.kindName) ∧
      (∀ descriptor (later : Settings), loaded.2 = .ok descriptor →
        settings.maxDescriptorBytes ≤ later.maxDescriptorBytes →
        (later.repairJson = settings.repairJson ∨
          settings.repairJson = false ∧ later.repairJson = true) →
        load mend later text = ([], .ok descriptor)) ∧
      (∀ descriptor (indent : Int) (later : Settings), settings.repairJson = false →
        loaded.2 = .ok descriptor →
        Text.byteCount (Json.dump descriptor.toValue indent) ≤ later.maxDescriptorBytes →
        load mend later (Json.dump descriptor.toValue indent) = ([], .ok descriptor)) := by
  intro loaded size read
  have large : settings.maxDescriptorBytes < size ↔ ¬Fits settings text := Nat.not_le.symm
  obtain ⟨reported, unreported⟩ := load_reports mend settings text
  refine ⟨load_cases mend settings text, fun _ => load_eq_ok_iff, ?_, ?_, unreported,
    fun _ => load_eq_wrongKind_iff, ?_, ?_⟩
  · intro exceeds
    exact load_of_not_fits (large.1 exceeds)
  · rw [large]
    exact reported
  · intro descriptor later found greater permitted
    exact load_mono found greater permitted
  · intro descriptor indent later strict found fits
    exact load_dump indent strict found fits

/-- A page in a fence, with a repeated name, numbers in odd spellings and an integer beyond 64
bits, has as many bytes as are permitted, but fewer characters.  It is loaded, with greater
permissions too, and so is its own text; one byte less is too few. -/
theorem load_exact_at_limit :
    let strict : Settings := { maxDescriptorBytes := 79, repairJson := false }
    let mending : Settings := {}
    let narrow : Settings := { maxDescriptorBytes := 78 }
    let text := "```json\n\x7b\"a\": 1E2, \"n\": [-98765432109876543210, 25e-1], " ++
      "\"a\": \"é😀\"\x7d\n``` done"
    let page : Descriptor := .object [("a", .string "é😀"),
      ("n", .array [.int (-98765432109876543210),
        .float (.finite false ⟨4612811918334230528, by decide⟩)])]
    let written := Json.dump page.toValue 2
    (load .none strict text).2 = .ok page ∧
      load .none mending text = ([], .ok page) ∧
      load .none strict written = ([], .ok page) ∧
      load .none narrow text =
        ([.descriptorDecodeFailed "Page descriptor size 79 bytes exceeds maximum 78 bytes"],
          .error (.undecodable (.oversized "Page descriptor" 79 78))) := by
  intro strict mending narrow text page written
  have size : Text.byteCount text = 79 := by decide +kernel
  have writable : page.toValue.Writable :=
    ⟨⟨by decide, trivial, ⟨trivial, trivial, trivial⟩, trivial⟩,
      trivial, ⟨trivial, rfl, trivial⟩, trivial⟩
  have read : Document.read .none text false = .ok page.toValue := by
    have dumped : (Document.read .none text false).toOption.map (Json.dump · 0) =
        some (Json.dump page.toValue 0) := by
      decide +kernel
    cases result : Document.read .none text false with
    | error reason =>
        rw [result] at dumped
        cases dumped
    | ok value =>
        rw [result] at dumped
        have sameText : Json.dump value 0 = Json.dump page.toValue 0 := Option.some.inj dumped
        rw [Document.eq_of_dump_eq (Document.writable_of_read result) writable sameText]
  obtain ⟨-, loaded, -, -, -, -, monotone, reloaded⟩ := load_exact .none strict text
  obtain ⟨-, -, refused, -⟩ := load_exact .none narrow text
  have found : (load .none strict text).2 = .ok page :=
    (loaded page).2 ⟨Nat.le_of_eq size, read⟩
  refine ⟨found, monotone page mending found (by decide) (.inr ⟨rfl, rfl⟩),
    reloaded page 2 strict rfl found (by decide +kernel), ?_⟩
  have wording : (tooLarge narrow text).message =
      "Page descriptor size 79 bytes exceeds maximum 78 bytes" := by decide +kernel
  rw [tooLarge, size] at wording
  rw [size] at refused
  rw [← wording]
  exact refused (by decide)

end Descriptor

end PageTree
