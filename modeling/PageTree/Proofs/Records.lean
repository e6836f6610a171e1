import PageTree.Proofs.Course
import PageTree.Proofs.Failure
import PageTree.Proofs.Keys

/-!
# Counters, events and trees agree

A rendering leaves three records of itself: the counters of its report, the events
that it reports, and the tree.  They agree.  Every placeholder in the tree is
counted once and reported once, in the order of the walk through the tree, and every
element but the labels is counted as a component (`Report.Accounts`).

A component that is nested too deeply is reported twice, by a warning and then by
its placeholder; `Warned` says that the one never comes without the other.
-/

namespace PageTree

namespace Element

/-- The placeholder of an element as it is reported: under the key of the element, or
of the element that a label belongs to. -/
def flag? (element : Element) : Option (Defect × String) :=
  element.placeholder.map fun defect => (defect, ownerKey element.key)

theorem walk_of_childless {element : Element} (childless : element.children = []) :
    element.walk = [element] := by
  rw [walk_eq, childless]
  rfl

theorem walk_of_labelled {element label : Element} (labelled : element.children = [label])
    (childless : label.children = []) : element.walk = [element] ++ [label] := by
  rw [walk_eq, labelled, walkAll_eq_flatMap, List.flatMap_singleton,
    walk_of_childless childless]
  rfl

end Element

/-- Whether an event is about nesting that is too deep. -/
def Event.isAboutDepth : Event → Bool
  | .depthExceeded .. | .degradedRender .depthExceeded .. => true
  | _ => false

/-- Warnings of nesting that is too deep and the placeholders for it come in pairs,
the warning directly before the placeholder and with the same key. -/
inductive Warned : List Event → Prop where
  | nil : Warned []
  | pair (key : String) (limit : Nat) (detail : DefectDetail) {rest : List Event} :
      Warned rest →
      Warned (.depthExceeded key limit :: .degradedRender .depthExceeded key detail :: rest)
  | other {event : Event} {rest : List Event} (other : event.isAboutDepth = false) :
      Warned rest → Warned (event :: rest)

namespace Warned

variable {events later : List Event}

theorem append (warned : Warned events) (warnedLater : Warned later) :
    Warned (events ++ later) := by
  induction warned with
  | nil => exact warnedLater
  | pair key limit detail warned ih => exact .pair key limit detail ih
  | other other warned ih => exact .other other ih

/-- No placeholder for depth comes first. -/
theorem getElem?_zero_ne (warned : Warned events) (key : String) (detail : DefectDetail) :
    events[0]? ≠ some (.degradedRender .depthExceeded key detail) := by
  cases warned with
  | nil => simp
  | pair => simp
  | other other warned =>
      intro found
      cases found
      cases other

/-- A warning stands directly before each placeholder for depth and nowhere else. -/
theorem getElem?_iff (warned : Warned events) (index : Nat) (key : String) :
    (∃ limit, events[index]? = some (.depthExceeded key limit)) ↔
      ∃ detail, events[index + 1]? = some (.degradedRender .depthExceeded key detail) := by
  induction warned generalizing index with
  | nil => simp
  | @pair pairKey limit detail rest warned ih =>
      cases index with
      | zero => simp
      | succ index =>
          cases index with
          | zero => simpa using fun other => warned.getElem?_zero_ne key other
          | succ index => simpa using ih index
  | @other event rest other warned ih =>
      cases index with
      | zero =>
          constructor
          · rintro ⟨limit, found⟩
            cases found
            cases other
          · rintro ⟨detail, found⟩
            exact absurd found (warned.getElem?_zero_ne key detail)
      | succ index => simpa using ih index

end Warned

namespace Report

variable {α β : Type}

/-- The placeholders of a report are those of some elements: each of them is counted
for its defect and reported with its key, in order. -/
structure Flags (report : Report α) (elements : List Element) : Prop where
  placeholders (defect : Defect) : report.placeholders defect =
    elements.countP fun element => element.placeholder = some defect
  degraded : report.degraded = elements.filterMap Element.flag?
  warned : Warned report.events

/-- The counters and events of a report are those of some elements: beside their
placeholders, one component for every element but the labels. -/
structure Accounts (report : Report α) (elements : List Element) : Prop
    extends report.Flags elements where
  visited : report.visited = elements.countP fun element => !element.isLabel

variable {report : Report α} {following : Report β} {elements later : List Element}

theorem Flags.followedBy (flags : report.Flags elements)
    (flagsLater : following.Flags later) :
    (report.followedBy following).Flags (elements ++ later) where
  placeholders := by
    intro defect
    rw [List.countP_append, ← flags.placeholders, ← flagsLater.placeholders]
    rfl
  degraded := by
    rw [List.filterMap_append, ← flags.degraded, ← flagsLater.degraded,
      degraded_followedBy]
  warned := flags.warned.append flagsLater.warned

/-- An event that is no placeholder and not about depth changes nothing. -/
theorem Flags.reporting {event : Event} (sound : event.degraded? = none)
    (shallow : event.isAboutDepth = false) (flags : report.Flags elements) :
    (report.reporting event).Flags elements where
  placeholders := flags.placeholders
  degraded := by
    have skipped : (report.reporting event).degraded = report.degraded :=
      List.filterMap_cons_none sound
    rw [skipped, flags.degraded]
  warned := .other shallow flags.warned

/-- An element without a placeholder flags nothing. -/
theorem Flags.sound (element : Element) (sound : element.placeholder = none)
    (flags : report.Flags elements) : report.Flags (elements ++ [element]) where
  placeholders := by simp [flags.placeholders, sound]
  degraded := by simp [flags.degraded, Element.flag?, sound]
  warned := flags.warned

theorem flags_result (value : α) : (result value).Flags [] :=
  ⟨fun _ => rfl, rfl, .nil⟩

namespace Accounts

theorem followedBy (accounts : report.Accounts elements)
    (accountsLater : following.Accounts later) :
    (report.followedBy following).Accounts (elements ++ later) where
  toFlags := accounts.toFlags.followedBy accountsLater.toFlags
  visited := by
    rw [List.countP_append, ← accounts.visited, ← accountsLater.visited]
    rfl

theorem map (image : α → β) (accounts : report.Accounts elements) :
    (report.map image).Accounts elements :=
  ⟨⟨accounts.placeholders, accounts.degraded, accounts.warned⟩, accounts.visited⟩

/-- An element without a placeholder is one component more. -/
theorem counted (element : Element) (unlabelled : element.isLabel = false)
    (sound : element.placeholder = none) (accounts : report.Accounts elements) :
    report.counted.Accounts (element :: elements) where
  placeholders := by simp [accounts.placeholders, sound]
  degraded := by simp [accounts.degraded, Element.flag?, sound]
  warned := accounts.warned
  visited := by simp [accounts.visited, unlabelled]

/-- A label without a placeholder leaves no record. -/
theorem label (label : Element) (labels : label.isLabel = true)
    (sound : label.placeholder = none) (accounts : report.Accounts elements) :
    report.Accounts (elements ++ [label]) where
  toFlags := accounts.toFlags.sound label sound
  visited := by simp [accounts.visited, labels]

end Accounts

theorem accounts_result (value : α) : (result value).Accounts [] :=
  ⟨flags_result value, rfl⟩

theorem accounts_label (value : α) (label : Element) (labels : label.isLabel = true)
    (sound : label.placeholder = none) : (result value).Accounts [label] :=
  (accounts_result value).label label labels sound

end Report

namespace Renderer

variable {renderer : Renderer} {levels : Nat} {raw : Value} {raws : List Value}
variable {path : Path} {start : Nat} {element : Element} {elements : List Element}
variable {type : String} {props style payload : Record}

/-! ## One component -/

/-- A placeholder, other than for depth, needs no warning. -/
theorem warned_degraded {defect : Defect} (key : String) (detail : DefectDetail)
    (shallow : defect ≠ .depthExceeded) : Warned [.degradedRender defect key detail] := by
  apply Warned.other _ .nil
  cases defect <;> simp [Event.isAboutDepth] at shallow ⊢

section Flagged

variable {α : Type} {defect : Defect} {key : String} (detail : DefectDetail) (value : α)

theorem flags_flagged (element : Element) (owner : ownerKey element.key = key)
    (placed : element.placeholder = some defect) (shallow : defect ≠ .depthExceeded) :
    (flagged defect key detail value).Flags [element] where
  placeholders := by simp [placed, eq_comm]
  degraded := by simp [Element.flag?, placed, owner]
  warned := warned_degraded _ detail shallow

/-- The placeholder of a label is no component of its own. -/
theorem accounts_flagged_label (element : Element) (labels : element.isLabel = true)
    (owner : ownerKey element.key = key) (placed : element.placeholder = some defect)
    (shallow : defect ≠ .depthExceeded) :
    (flagged defect key detail value).Accounts [element] where
  toFlags := flags_flagged detail value element owner placed shallow
  visited := by simp [labels]

/-- Any other placeholder is that of a component. -/
theorem accounts_flagged (element : Element) (keyed : element.key = identityKey type path)
    (placed : element.placeholder = some defect) (shallow : defect ≠ .depthExceeded) :
    (flagged defect (identityKey type path) detail value).counted.Accounts [element] where
  toFlags :=
    have owner : ownerKey element.key = identityKey type path := by simp [keyed]
    have flags := flags_flagged detail value element owner placed shallow
    ⟨flags.placeholders, flags.degraded, flags.warned⟩
  visited := by simp [Element.isLabel, keyed]

/-- The placeholder for depth is warned of. -/
theorem accounts_tooDeep (limit : Nat) (element : Element)
    (keyed : element.key = identityKey type path)
    (placed : element.placeholder = some .depthExceeded) :
    ((flagged .depthExceeded (identityKey type path) detail value).reporting
      (.depthExceeded (identityKey type path) limit)).counted.Accounts [element] where
  visited := by simp [Element.isLabel, keyed]
  placeholders := by simp [placed, eq_comm]
  degraded := by
    simp only [Report.degraded_counted, List.filterMap_cons, List.filterMap_nil,
      Element.flag?, placed, keyed, ownerKey_identityKey, Option.map_some]
    rfl
  warned := .pair _ limit detail .nil

end Flagged

/-- A text in the style of placeholders leaves no record beside that of its owner. -/
theorem accounts_of_fallbackLabel {α : Type} {report : Report α} {key text : String}
    (labelled : element.children = [renderer.fallbackLabel key text])
    (accounts : report.Accounts [element]) : report.Accounts element.walk := by
  rw [Element.walk_of_labelled labelled rfl]
  apply accounts.label
  · exact isLabelKey_labelKey key
  · rfl

/-- A notice in place of a component leaves the records of a component with a label. -/
theorem accounts_notice (renderer : Renderer) (type text : String) (path : Path)
    {defect : Defect} (detail : DefectDetail) (shallow : defect ≠ .depthExceeded) :
    (flagged defect (identityKey type path) detail
      (renderer.notice (identityKey type path) text defect)).counted.Accounts
        (renderer.notice (identityKey type path) text defect).walk := by
  apply accounts_of_fallbackLabel rfl
  exact accounts_flagged _ _ _ rfl rfl shallow

/-- So does the notice of depth, which is warned of. -/
theorem accounts_depthNotice (renderer : Renderer) (type text : String) (path : Path)
    (limit : Nat) :
    ((flagged .depthExceeded (identityKey type path) .none
      (renderer.notice (identityKey type path) text .depthExceeded)).reporting
        (.depthExceeded (identityKey type path) limit)).counted.Accounts
          (renderer.notice (identityKey type path) text .depthExceeded).walk := by
  apply accounts_of_fallbackLabel rfl
  exact accounts_tooDeep _ _ _ _ rfl rfl

theorem presentText_accounts
    (yielded : (presentText (identityKey type path) style props payload).outcome =
      .ok element) :
    (presentText (identityKey type path) style props payload).counted.Accounts
      element.walk := by
  unfold presentText at yielded ⊢
  obtain ⟨content, read, shown⟩ := (Report.outcome_reading_eq_ok_iff _ _ _).1 yielded
  rw [read, Report.reading_ok]
  cases content with
  | some content =>
      cases shown
      rw [Element.walk_of_childless rfl]
      exact (Report.accounts_result _).counted _ (isLabelKey_identityKey type path) rfl
  | none =>
      cases shown
      rw [Element.walk_of_childless rfl]
      exact accounts_flagged _ _ _ rfl rfl (by decide)

theorem presentImage_accounts
    (yielded : (renderer.presentImage (identityKey type path) style props payload).outcome =
      .ok element) :
    (renderer.presentImage (identityKey type path) style props payload).counted.Accounts
      element.walk := by
  unfold presentImage at yielded ⊢
  obtain ⟨source, read, shown⟩ := (Report.outcome_reading_eq_ok_iff _ _ _).1 yielded
  rw [read, Report.reading_ok]
  cases given : Host.given? source with
  | some source =>
      rw [given] at shown
      cases shown
      rw [Element.walk_of_childless rfl]
      exact (Report.accounts_result _).counted _ (isLabelKey_identityKey type path) rfl
  | none =>
      rw [given] at shown
      cases shown
      rw [Element.walk_of_childless rfl]
      exact accounts_flagged _ _ _ rfl rfl (by decide)

/-- The label of a button is alone, and its placeholder is reported for the button. -/
theorem presentLabel_accounts {label : Element}
    (yielded : (renderer.presentLabel (identityKey type path) payload).outcome = .ok label) :
    label.children = [] ∧
      (renderer.presentLabel (identityKey type path) payload).Accounts [label] := by
  unfold presentLabel at yielded ⊢
  obtain ⟨text, read, shown⟩ := (Report.outcome_reading_eq_ok_iff _ _ _).1 yielded
  rw [read, Report.reading_ok]
  cases text with
  | some text =>
      cases shown
      refine ⟨rfl, ?_⟩
      apply Report.accounts_label
      · exact isLabelKey_labelKey _
      · rfl
  | none =>
      cases shown
      refine ⟨rfl, ?_⟩
      apply accounts_flagged_label
      · exact isLabelKey_labelKey _
      · exact ownerKey_labelKey _
      · rfl
      · decide

theorem presentButton_accounts
    (yielded : (renderer.presentButton (identityKey type path) style props payload).outcome =
      .ok element) :
    (renderer.presentButton (identityKey type path) style props payload).counted.Accounts
      element.walk := by
  rw [presentButton, Report.outcome_map_eq_ok_iff] at yielded
  obtain ⟨label, labelled, rfl⟩ := yielded
  obtain ⟨childless, accounts⟩ := presentLabel_accounts labelled
  rw [Element.walk_of_labelled rfl childless]
  apply Report.Accounts.counted
  · exact isLabelKey_identityKey type path
  · rfl
  · exact accounts.map _

theorem presentFallback_accounts
    (yielded : (renderer.presentFallback type (identityKey type path) style).outcome =
      .ok element) :
    (renderer.presentFallback type (identityKey type path) style).counted.Accounts
      element.walk := by
  cases yielded
  apply accounts_of_fallbackLabel rfl
  exact accounts_flagged _ _ _ rfl rfl (by decide)

/-- A leaf leaves the records of its element. -/
theorem presentLeaf_accounts
    (yielded : (renderer.presentLeaf type props style payload path).outcome = .ok element) :
    (renderer.presentLeaf type props style payload path).counted.Accounts element.walk := by
  unfold presentLeaf at yielded ⊢
  generalize renderer.catalogue.presentation type = presentation at yielded ⊢
  cases presentation with
  | container primitive => cases yielded
  | text => exact presentText_accounts yielded
  | image => exact presentImage_accounts yielded
  | button => exact presentButton_accounts yielded
  | fallback => exact presentFallback_accounts yielded

/-! ## The walk -/

/-- A list leaves the records of its elements when each component does. -/
theorem renderEach_accounts {renderOne : Value → Path → Report Element}
    (each : ∀ raw path element, (renderOne raw path).outcome = .ok element →
      (renderOne raw path).Accounts element.walk)
    (yielded : (renderEach renderOne path start raws).outcome = .ok elements) :
    (renderEach renderOne path start raws).Accounts (Element.walkAll elements) := by
  induction raws generalizing start elements with
  | nil =>
      cases yielded
      exact Report.accounts_result []
  | cons raw raws ih =>
      obtain ⟨first, rest, rfl, firstYielded, restYielded⟩ := renderEach_cons_eq_ok yielded
      rw [renderEach_cons_of_ok firstYielded]
      exact (each raw _ first firstYielded).followedBy ((ih restYielded).map _)

/-- A rendered component leaves the records of its element and all below it. -/
theorem visit_accounts
    (yielded : (renderer.visit levels raw path).outcome = .ok element) :
    (renderer.visit levels raw path).Accounts element.walk := by
  induction levels generalizing raw path element with
  | zero =>
      have spec := renderer.visit_spec 0 raw path
      generalize renderer.visit 0 raw path = report at spec yielded ⊢
      cases spec with
      | malformed _ shape =>
          cases yielded
          exact renderer.accounts_notice _ _ _ _ (by decide)
      | tooDeep shape =>
          cases yielded
          exact renderer.accounts_depthNotice _ _ _ _
  | succ levels ih =>
      have spec := renderer.visit_spec (levels + 1) raw path
      generalize renderer.visit (levels + 1) raw path = report at spec yielded ⊢
      cases spec with
      | malformed _ shape =>
          cases yielded
          exact renderer.accounts_notice _ _ _ _ (by decide)
      | leaf _ shape => exact presentLeaf_accounts yielded
      | container _ presented =>
          rw [Report.outcome_counted, Report.outcome_map_eq_ok_iff] at yielded
          obtain ⟨children, rendered, rfl⟩ := yielded
          rw [Element.walk_eq]
          apply Report.Accounts.counted
          · exact isLabelKey_identityKey _ _
          · rfl
          · exact (renderEach_accounts (fun _ _ _ => ih) rendered).map _

/-! ## Pages -/

/-- Every placeholder has one of the defects. -/
theorem sum_countP_placeholder (elements : List Element) :
    Defect.all.foldr (fun defect count =>
        elements.countP (fun element => element.placeholder = some defect) + count) 0 =
      elements.countP fun element => element.placeholder.isSome := by
  induction elements with
  | nil => rfl
  | cons element rest ih =>
      simp only [Defect.all, List.foldr_cons, List.foldr_nil, List.countP_cons] at ih ⊢
      rw [← ih]
      cases element.placeholder with
      | none => simp
      | some defect =>
          cases defect <;> simp <;> omega

/-- A page that is a placeholder as a whole flags itself. -/
theorem flags_pageNotice {tree : Element} (containerStyle textStyle text : String)
    {defect : Defect} (shallow : defect ≠ .depthExceeded)
    (yielded : (concluding (renderer.pageNotice containerStyle textStyle text defect)
      (.renderPlaceholder defect)).outcome = .ok tree) :
    (concluding (renderer.pageNotice containerStyle textStyle text defect)
      (.renderPlaceholder defect)).Flags tree.walk := by
  have unowned : ownerKey pageKey = pageKey := by decide
  cases yielded
  rw [Element.walk_of_labelled rfl rfl, concluding, Report.andThen_of_ok _ rfl,
    ← List.append_nil (_ ++ _)]
  apply Report.Flags.followedBy
  · apply Report.Flags.sound
    · rfl
    · exact flags_flagged _ _ _ unowned rfl shallow
  · exact (Report.flags_result _).reporting rfl rfl

/-- Components below a path leave the records of their elements. -/
theorem renderChildren_accounts
    (yielded : (renderer.renderChildren raws path).outcome = .ok elements) :
    (renderer.renderChildren raws path).Accounts (Element.walkAll elements) :=
  renderEach_accounts (fun _ _ _ => visit_accounts) yielded

variable {page : Value} {report : Report Element} {tree : Element}

/-- The placeholders in the tree of a page are those of its report. -/
theorem renderPage_flags (found : renderer.renderPage page = .ok report)
    (yielded : report.outcome = .ok tree) : report.Flags tree.walk := by
  by_cases listed : page.components = []
  · rcases renderPage_of_unlisted listed with scalar | missing | empty | ⟨kind, invalid⟩
    · rw [renderPage_of_isScalar scalar] at found
      cases found
    · obtain rfl := Except.ok.inj ((missing renderer).symm.trans found)
      exact flags_pageNotice _ _ _ (by decide) yielded
    · obtain rfl := Except.ok.inj ((empty renderer).symm.trans found)
      exact flags_pageNotice _ _ _ (by decide) yielded
    · obtain rfl := Except.ok.inj ((invalid renderer).symm.trans found)
      exact (flags_pageNotice _ _ _ (by decide) yielded).reporting rfl rfl
  · rw [renderPage_of_listed renderer listed] at found
    cases found
    obtain ⟨children, rendered, rfl, course⟩ := renderComponents_of_ok listed yielded
    have flags := (renderChildren_accounts rendered).toFlags
    rw [course, Element.walk_eq]
    constructor
    · intro defect
      simp [flags.placeholders, pageElement]
    · simp only [Report.degraded_followedBy, flags.degraded, pageElement,
        List.filterMap_cons, Element.flag?, Option.map_none]
      exact List.append_nil _
    · exact flags.warned.append (.other rfl .nil)

/-- The report of a page that lists components ends with the number of its elements,
without the page and the labels, and the number of its placeholders. -/
theorem renderPage_complete (listed : page.components ≠ [])
    (found : renderer.renderPage page = .ok report) (yielded : report.outcome = .ok tree) :
    report.events.getLast? = some (.renderComplete
      (tree.walk.tail.countP fun element => !element.isLabel)
      (tree.walk.countP fun element => element.placeholder.isSome)) := by
  rw [renderPage_of_listed renderer listed] at found
  cases found
  obtain ⟨children, rendered, rfl, course⟩ := renderComponents_of_ok listed yielded
  have accounts := renderChildren_accounts rendered
  have placed : (renderer.renderChildren page.components []).placeholderCount =
      (Element.walkAll children).countP fun element => element.placeholder.isSome := by
    rw [Report.placeholderCount, funext accounts.placeholders]
    exact sum_countP_placeholder _
  rw [course, accounts.visited, placed, Element.walk_eq]
  simp [Report.followedBy, Report.reporting, pageElement, Report.result]

/-- The three records of a rendering agree.

For a page, the reported placeholders are those of the elements of the tree, in the
order of the walk, with the key of the element or, for a label, of the element that it
belongs to; the counters count the same.  A warning of depth stands directly before
each placeholder for depth, with the same key, and nowhere else.  A page that lists
components ends with the number of elements but itself and the labels, and the number
of placeholders.

For components rendered in the course of a pass, whatever that has counted and
reported before, the same is added for their elements. -/
theorem records_agree (renderer : Renderer) :
    (∀ page report tree, renderer.renderPage page = .ok report →
      report.outcome = .ok tree →
      report.degraded = tree.walk.filterMap Element.flag? ∧
      (∀ defect, report.placeholders defect =
        tree.walk.countP fun element => element.placeholder = some defect) ∧
      (∀ key detail,
        report.events[0]? ≠ some (.degradedRender .depthExceeded key detail)) ∧
      (∀ index key, (∃ limit, report.events[index]? = some (.depthExceeded key limit)) ↔
        ∃ detail, report.events[index + 1]? =
          some (.degradedRender .depthExceeded key detail)) ∧
      (page.components ≠ [] → report.events.getLast? = some (.renderComplete
        (tree.walk.tail.countP fun element => !element.isLabel)
        (tree.walk.countP fun element => element.placeholder.isSome)))) ∧
    ∀ (pass : Report Unit) raws path (after : Report (List Element)) elements,
      (pass.andThen fun _ => renderer.renderChildren raws path) = after →
      after.outcome = .ok elements →
      after.visited = pass.visited +
        (Element.walkAll elements).countP (fun element => !element.isLabel) ∧
      (∀ defect, after.placeholders defect = pass.placeholders defect +
        (Element.walkAll elements).countP fun element =>
          element.placeholder = some defect) ∧
      after.degraded =
        pass.degraded ++ (Element.walkAll elements).filterMap Element.flag? ∧
      ∃ events, Warned events ∧ after.events = pass.events ++ events := by
  constructor
  · intro page report tree found yielded
    have flags := renderPage_flags found yielded
    exact ⟨flags.degraded, flags.placeholders, flags.warned.getElem?_zero_ne,
      flags.warned.getElem?_iff, fun listed => renderPage_complete listed found yielded⟩
  · rintro pass raws path _ elements rfl yielded
    obtain ⟨_, begun, rendered⟩ := (Report.outcome_andThen_eq_ok_iff _ _ _).1 yielded
    have accounts := renderChildren_accounts rendered
    rw [Report.andThen_of_ok _ begun]
    refine ⟨?_, ?_, ?_, _, accounts.warned, rfl⟩
    · rw [← accounts.visited]
      rfl
    · intro defect
      rw [← accounts.placeholders]
      rfl
    · rw [← accounts.degraded, Report.degraded_followedBy]

/-- A button without a text, text that is too deep and null leave their records in a
page, and in a pass that has counted before. -/
theorem records_of_degraded_page :
    let renderer : Renderer :=
      ⟨Theme.standard, Catalogue.standard, Host.none, 1, Nat.one_pos⟩
    let raws : List Value := [.object [("type", .string "button")],
      .object [("type", .string "container"), ("children", .array [.string "deep", .null])]]
    let pass : Report Unit := ⟨7, fun _ => 2, [], .ok ()⟩
    (∃ report tree, renderer.renderPage (.array raws) = .ok report ∧
      report.outcome = .ok tree ∧
      report.degraded = [(.malformedLeafPayload, "button_0"), (.depthExceeded, "text_1.0"),
        (.malformedNode, "malformed_1.1")] ∧
      report.degraded = tree.walk.filterMap Element.flag?) ∧
    ∃ after elements, (pass.andThen fun _ => renderer.renderChildren raws []) = after ∧
      after.outcome = .ok elements ∧
      after.visited =
        7 + (Element.walkAll elements).countP (fun element => !element.isLabel) := by
  intro renderer raws pass
  obtain ⟨ofPage, ofPass⟩ := records_agree renderer
  constructor
  · have described : (Value.array raws).isScalar = false := rfl
    obtain ⟨tree, report, found, yielded⟩ := renderer.exists_renders described (by rfl)
    have degraded := (ofPage _ _ _ found yielded).1
    cases found
    exact ⟨_, tree, rfl, yielded, by decide +kernel, degraded⟩
  · obtain ⟨elements, rendered⟩ := Report.failure?_eq_none_iff.1
      ((renderer.failure?_renderChildren raws []).trans (by rfl))
    have yielded : (pass.andThen fun _ => renderer.renderChildren raws []).outcome =
        .ok elements := (Report.outcome_andThen_eq_ok_iff _ _ _).2 ⟨(), rfl, rendered⟩
    exact ⟨_, elements, rfl, yielded, (ofPass pass raws [] _ elements rfl yielded).1⟩

end Renderer

end PageTree
