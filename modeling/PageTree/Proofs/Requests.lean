import PageTree.Response
import PageTree.Proofs.Failure
import PageTree.Proofs.Loading
import PageTree.Proofs.Scopes

/-!
# Requests

A page may be asked for by text or by data.  The two ways check the description in
different places and report a refusal differently, but once a text has been read, the
answer is that to its data (`Response.outcome_ofText_of_read`).  The answer to data
follows from its rendering alone: `outcome_ofValue_of_renderPage` covers a tree and a
fault at once, and what describes no page is refused.

Whatever becomes of a request, the log context is afterwards what it was before, because
the only scope that is entered is left again.
-/

namespace PageTree

namespace Descriptor

variable {value : Value} {descriptor : Descriptor} {settings : Settings} {mend : Mender}
variable {text : String} {reason : DocumentError}

/-- A page's name for itself is the field `id` of its data, where that is text. -/
theorem pageId?_of_ofValue? (described : ofValue? value = .ok descriptor) :
    descriptor.pageId? = (value.field? "id").bind Value.string? := by
  cases value with
  | null | array items | object fields =>
      cases described
      rfl
  | _ => cases described

/-- A text of permitted size that is read stands for its data, and nothing is reported. -/
theorem load_of_read (within : text.utf8ByteSize ≤ settings.maxDescriptorBytes)
    (read : Document.read mend text settings.repairJson = .ok value) :
    load mend settings text = ([], ofValue? value) := by
  rw [Text.utf8ByteSize_eq_byteCount] at within
  exact load_of_decoded (decode_eq_ok_iff.2 ⟨within, read⟩)

/-- Any other text is refused as one that cannot be read. -/
theorem load_of_unread (unread : settings.maxDescriptorBytes < text.utf8ByteSize ∨
      ∃ reason, Document.read mend text settings.repairJson = .error reason) :
    ∃ reason, load mend settings text =
      ([.descriptorDecodeFailed reason.message], .error (.undecodable reason)) := by
  rw [Text.utf8ByteSize_eq_byteCount, ← Nat.not_le] at unread
  obtain ⟨reason, undecoded⟩ := exists_decode_eq_error_iff.2 unread
  exact ⟨reason, load_of_undecoded undecoded⟩

end Descriptor

namespace Response

variable {renderer : Renderer} {settings : Settings} {mend : Mender} {context : LogContext}
variable {text : String} {value : Value} {report : Report Element} {reason : DescriptorError}

/-- The answer to a described page carries its tree, or its fault is passed on. -/
theorem outcome_ofDescriptor (renderer : Renderer) (context : LogContext)
    (descriptor : Descriptor) :
    (ofDescriptor renderer context descriptor).outcome =
      (renderer.renderDescriptor descriptor).outcome.map fun tree =>
        ofTree tree descriptor.pageId? := by
  simp only [ofDescriptor]
  cases (renderer.renderDescriptor descriptor).outcome <;> rfl

/-- The scope of a page is left however its rendering ends. -/
theorem context_ofDescriptor (renderer : Renderer) (context : LogContext)
    (descriptor : Descriptor) : (ofDescriptor renderer context descriptor).context = context := by
  have distinct : Table.Distinct (pageScope descriptor).bindings := by
    simp [pageScope, Table.Distinct, Table.names]
  have restored := congrArg Prod.snd ((pageScope descriptor).leave_enter context distinct)
  simp only [ofDescriptor]
  cases (renderer.renderDescriptor descriptor).outcome <;> exact restored

/-! ## Data -/

/-- The answer to the data of a page. -/
theorem outcome_ofValue_of_renderPage (found : renderer.renderPage value = .ok report) :
    (ofValue renderer context value).outcome =
      report.outcome.map fun tree => ofTree tree ((value.field? "id").bind Value.string?) := by
  unfold Renderer.renderPage at found
  cases described : Descriptor.ofValue? value with
  | error reason =>
      rw [described] at found
      cases found
  | ok descriptor =>
      rw [described] at found
      cases found
      rw [ofValue, described, ← Descriptor.pageId?_of_ofValue? described]
      exact outcome_ofDescriptor renderer context descriptor

/-- The answer to data that describes no page. -/
theorem outcome_ofValue_of_isScalar (scalar : value.isScalar = true) :
    (ofValue renderer context value).outcome = .ok (refusal (.wrongKind value.kindName)) := by
  cases value with
  | null | array items | object fields => cases scalar
  | _ => rfl

/-- A request succeeds with data that is rendered to a tree, and with no other. -/
theorem exists_success_ofValue_iff :
    (∃ response, (ofValue renderer context value).outcome = .ok response ∧
      response.success = true) ↔
        value.isScalar = false ∧ ∃ tree, renderer.Renders value tree := by
  cases scalar : value.isScalar with
  | true =>
      rw [outcome_ofValue_of_isScalar scalar]
      constructor
      · rintro ⟨response, refused, succeeded⟩
        cases refused
        cases succeeded
      · rintro ⟨described, -⟩
        cases described
  | false =>
      obtain ⟨report, found⟩ := renderer.exists_renderPage_eq_ok scalar
      rw [outcome_ofValue_of_renderPage found]
      constructor
      · rintro ⟨response, answered, -⟩
        cases yielded : report.outcome with
        | ok tree => exact ⟨rfl, tree, report, found, yielded⟩
        | error fault =>
            rw [yielded] at answered
            cases answered
      · rintro ⟨-, tree, other, otherFound, yielded⟩
        obtain rfl : report = other := Except.ok.inj (found.symm.trans otherFound)
        rw [yielded]
        exact ⟨_, rfl, rfl⟩

theorem context_ofValue (renderer : Renderer) (context : LogContext) (value : Value) :
    (ofValue renderer context value).context = context := by
  unfold ofValue
  split
  · exact context_ofDescriptor renderer context _
  · rfl

/-! ## Text -/

/-- A text that is read gets the answer to its data. -/
theorem outcome_ofText_of_read (within : text.utf8ByteSize ≤ settings.maxDescriptorBytes)
    (read : Document.read mend text settings.repairJson = .ok value) :
    (ofText mend renderer settings context text).outcome =
      (ofValue renderer context value).outcome := by
  rw [ofText, ofValue, Descriptor.load_of_read within read]
  cases Descriptor.ofValue? value <;> rfl

/-- A text that is not loaded is refused with the message of the loader. -/
theorem outcome_ofText_of_load (refused : (Descriptor.load mend settings text).2 = .error reason) :
    (ofText mend renderer settings context text).outcome = .ok (refusal reason) := by
  rw [ofText]
  generalize Descriptor.load mend settings text = loaded at refused
  obtain ⟨events, result⟩ := loaded
  cases refused
  rfl

theorem context_ofText (mend : Mender) (renderer : Renderer) (settings : Settings)
    (context : LogContext) (text : String) :
    (ofText mend renderer settings context text).context = context := by
  unfold ofText
  split
  · exact context_ofDescriptor renderer context _
  · rfl

end Response

end PageTree
