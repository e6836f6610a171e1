import PageTree.Proofs.Course
import PageTree.Proofs.Substitution

/-!
# Look-ahead

The walk looks at one level more than it renders, and no further.  There are two sides
to this.

The walk is defined by the levels that are left; here it is described by the length of
paths (`visitThrough`), with any procedure in charge of the components inside a
component.  A rendering depends only on what the procedure does at paths of at most
`maxDepth + 1` indices (`renderEach_eq_renderChildren`), so no longer path is visited.

Of the components at the last level that is looked at, only the outside is seen: the
type of an object, that text is text, and the kind of a malformed value
(`Value.LooksLike`).  Exchanging them all for others that look alike changes neither
the tree, nor the events, nor the counters.
-/

namespace PageTree

/-! ## Values that look alike -/

/-- The type of a component is never empty, since an empty one counts as unknown. -/
theorem Node.typeOf_ne_empty (fields : Record) : typeOf fields ≠ "" := by
  unfold typeOf
  split
  · split
    · decide
    · assumption
  · decide

namespace Value

/-- A value that looks like another from outside.  Of an object the type is seen, and
text is an object of the type of text in short.  Of anything else the kind is seen. -/
inductive LooksLike : Value → Value → Prop where
  | object {fields others : Record} (sameType : Node.typeOf others = Node.typeOf fields) :
      LooksLike (.object fields) (.object others)
  | text (shown other : String) : LooksLike (.string shown) (.string other)
  | textObject (shown : String) {fields : Record}
      (typed : Node.typeOf fields = Node.textType) :
      LooksLike (.string shown) (.object fields)
  | malformed {raw other : Value} (noComponent : raw.isComponent = false)
      (sameKind : other.kindName = raw.kindName) : LooksLike raw other

/-- As little of a value as still looks like it. -/
def bare : Value → Value
  | object fields => object [("type", string (Node.typeOf fields))]
  | string _ => string ""
  | array _ => array []
  | scalar => scalar

theorem looksLike_bare (raw : Value) : raw.LooksLike raw.bare := by
  cases raw with
  | object fields =>
      apply LooksLike.object
      exact if_neg (Node.typeOf_ne_empty fields)
  | string text => exact .text text ""
  | _ => exact .malformed rfl rfl

variable {raw other : Value}

/-- The kind of a value tells whether it can be a component. -/
theorem isComponent_eq_of_kindName (sameKind : other.kindName = raw.kindName) :
    other.isComponent = raw.isComponent := by
  cases raw <;> cases other <;> first | rfl | (simp [kindName] at sameKind)

end Value

namespace Catalogue

variable {catalogue : Catalogue} {levels : Nat} {raw node page : Value}
variable {exchange : List Nat → Value → Value} {below position : List Nat}

/-- Exchange every component that the walk comes to so many levels below a component,
each according to its position there. -/
def exchangeBelow (catalogue : Catalogue) :
    Nat → (List Nat → Value → Value) → Value → Value
  | 0, exchange, raw => exchange [] raw
  | levels + 1, exchange, raw =>
      match catalogue.inner raw with
      | [] => raw
      | children =>
          raw.withChildren (children.mapIdx fun index child =>
            catalogue.exchangeBelow levels (fun below => exchange (index :: below)) child)

/-- Exchange every component that the walk through a page comes to so many levels below
the listed ones, each according to its position. -/
def exchangeAt (catalogue : Catalogue) (levels : Nat) (exchange : List Nat → Value → Value)
    (page : Value) : Value :=
  match page.components with
  | [] => page
  | components =>
      page.withComponents (components.mapIdx fun index top =>
        catalogue.exchangeBelow levels (fun below => exchange (index :: below)) top)

/-- Exchanged components are those inside their container, one for each. -/
theorem inner_exchangeBelow_succ :
    catalogue.inner (catalogue.exchangeBelow (levels + 1) exchange raw) =
      (catalogue.inner raw).mapIdx fun index child =>
        catalogue.exchangeBelow levels (fun below => exchange (index :: below)) child := by
  rw [exchangeBelow]
  cases inside : catalogue.inner raw with
  | nil => exact inside
  | cons first rest =>
      have member : first ∈ catalogue.inner raw := by simp [inside]
      obtain ⟨fields, rfl, container⟩ := eq_object_of_mem_inner member
      simp only [Value.withChildren]
      rw [inner_object, Node.childrenOf_insert]
      rwa [Node.typeOf_insert (by decide)]

/-- So are those that a page lists. -/
theorem components_exchangeAt :
    (catalogue.exchangeAt levels exchange page).components =
      page.components.mapIdx fun index top =>
        catalogue.exchangeBelow levels (fun below => exchange (index :: below)) top := by
  rw [exchangeAt]
  cases components : page.components with
  | nil => exact components
  | cons first rest => exact Value.components_withComponents _ (by simp [components])

/-- What stands so many levels below a component is exchanged. -/
theorem descendant?_exchangeBelow (length : below.length = levels) :
    catalogue.descendant? (catalogue.exchangeBelow levels exchange raw) below =
      (catalogue.descendant? raw below).map (exchange below) := by
  induction below generalizing levels raw exchange with
  | nil =>
      subst length
      rfl
  | cons index below ih =>
      subst length
      rw [List.length_cons, descendant?, inner_exchangeBelow_succ, List.getElem?_mapIdx,
        descendant?]
      cases (catalogue.inner raw)[index]? with
      | none => rfl
      | some child => exact ih rfl

/-- Every component that the walk comes to at the level is exchanged. -/
theorem componentAt?_exchangeAt (length : position.length = levels + 1) :
    catalogue.componentAt? (catalogue.exchangeAt levels exchange page) position =
      (catalogue.componentAt? page position).map (exchange position) := by
  cases position with
  | nil => cases length
  | cons index below =>
      rw [componentAt?, components_exchangeAt, List.getElem?_mapIdx, componentAt?]
      cases page.components[index]? with
      | none => rfl
      | some top => exact descendant?_exchangeBelow (Nat.succ.inj length)

end Catalogue

namespace Renderer

variable {renderer : Renderer} {levels start : Nat} {path : Path}
variable {raw other node page : Value} {raws others : List Value}

/-! ## Congruence -/

/-- Lists whose components are rendered alike are rendered alike. -/
theorem renderEach_congr {renderOne renderOther : Value → Path → Report Element}
    (sameLength : raws.length = others.length)
    (same : ∀ index raw other, raws[index]? = some raw → others[index]? = some other →
      renderOne raw (path ++ [((start + index : Nat) : Int)]) =
        renderOther other (path ++ [((start + index : Nat) : Int)])) :
    renderEach renderOne path start raws = renderEach renderOther path start others := by
  induction raws generalizing others start with
  | nil =>
      obtain rfl : others = [] := List.eq_nil_of_length_eq_zero sameLength.symm
      rfl
  | cons raw raws ih =>
      obtain ⟨other, others, rfl⟩ := List.exists_cons_of_length_eq_add_one sameLength.symm
      have first := same 0 raw other rfl rfl
      have rest : renderEach renderOne path (start + 1) raws =
          renderEach renderOther path (start + 1) others := by
        apply ih (Nat.succ.inj sameLength)
        intro index next nextOther atIndex otherAt
        have atNext := same (index + 1) next nextOther atIndex otherAt
        rwa [← Nat.add_assoc, Nat.add_right_comm] at atNext
      simp only [Nat.add_zero] at first
      rw [renderEach, renderEach, first, rest]

/-- Procedures that do the same below a path render lists below it alike. -/
theorem renderEach_congr_procedure {renderOne renderOther : Value → Path → Report Element}
    (same : ∀ raw (index : Int),
      renderOne raw (path ++ [index]) = renderOther raw (path ++ [index])) :
    renderEach renderOne path start raws = renderEach renderOther path start raws := by
  apply renderEach_congr rfl
  intro index raw other atIndex otherAt
  obtain rfl : raw = other := Option.some.inj (atIndex.symm.trans otherAt)
  exact same raw _

/-- Changes to components that leave their renderings as they are. -/
theorem renderEach_mapIdx {renderOne : Value → Path → Report Element}
    (change : Nat → Value → Value)
    (same : ∀ index raw, raws[index]? = some raw →
      renderOne (change index raw) (path ++ [(index : Int)]) =
        renderOne raw (path ++ [(index : Int)])) :
    renderEach renderOne path 0 (raws.mapIdx change) = renderEach renderOne path 0 raws := by
  apply renderEach_congr List.length_mapIdx
  intro index changed raw changedAt atIndex
  rw [List.getElem?_mapIdx, atIndex] at changedAt
  obtain rfl : change index raw = changed := Option.some.inj changedAt
  rw [Nat.zero_add]
  exact same index raw atIndex

/-! ## Paths -/

section Paths

variable {σ : Type} [Strategy σ] [Presents σ] {renderer : Renderer σ}

/-- One step of the walk, by the length of the path, with a procedure in charge of the
components inside. -/
def visitThrough (renderer : Renderer σ) (visitBelow : Value → Path → Report Element)
    (raw : Value) (path : Path) : Report Element :=
  let node := Node.ofValue renderer.catalogue.isContainer raw
  let key := identityKey node.type path
  match node with
  | .malformed kind =>
      (flagged .malformedNode key (.valueKind kind)
        (renderer.notice key (malformedText kind) .malformedNode)).counted
  | node =>
      if renderer.maxDepth < path.length then
        ((flagged .depthExceeded key .none
          (renderer.notice key tooDeepText .depthExceeded)).reporting
            (.depthExceeded key renderer.maxDepth)).counted
      else
        (Presents.present renderer (renderer.catalogue.presentation node.type)
          (renderEach visitBelow path 0) node key (renderer.styleOf node) path).counted

/-- A step depends on the procedure only at the children, and not at all once the path
is too long. -/
theorem visitThrough_congr {visitBelow visitOther : Value → Path → Report Element}
    (same : path.length ≤ renderer.maxDepth →
      ∀ raw (index : Int), visitBelow raw (path ++ [index]) = visitOther raw (path ++ [index])) :
    renderer.visitThrough visitBelow raw path = renderer.visitThrough visitOther raw path := by
  unfold visitThrough
  by_cases tooLong : renderer.maxDepth < path.length
  · simp only [if_pos tooLong]
  · have each : renderEach visitBelow path 0 = renderEach visitOther path 0 := by
      funext raws
      exact renderEach_congr_procedure (same (Nat.le_of_not_lt tooLong))
    simp only [each]

/-- The walk itself takes these steps: the levels that are left run out where paths get
too long. -/
theorem render_eq_visitThrough (renderer : Renderer σ) (raw : Value) (path : Path) :
    renderer.render raw path = renderer.visitThrough renderer.render raw path := by
  rw [render, visitThrough]
  by_cases tooLong : renderer.maxDepth < path.length
  · have noneLeft : renderer.levelsAt path = 0 := Nat.sub_eq_zero_of_le tooLong
    rw [noneLeft, visit]
    cases Node.ofValue renderer.catalogue.isContainer raw <;> simp only [if_pos tooLong]
  · have within := Nat.le_of_not_lt tooLong
    have left : renderer.levelsAt path = renderer.maxDepth - path.length + 1 :=
      Nat.succ_sub within
    have inside : renderEach (renderer.visit (renderer.maxDepth - path.length)) path 0 =
        renderEach renderer.render path 0 := by
      funext raws
      apply renderEach_congr_procedure
      intro raw index
      simp [render, levelsAt]
    rw [left, visit]
    cases Node.ofValue renderer.catalogue.isContainer raw <;>
      simp only [if_neg tooLong, inside]

/-- A procedure that takes the steps of the walk wherever the walk looks does what the
walk does there. -/
theorem visitBelow_eq_render {visitBelow : Value → Path → Report Element}
    (steps : ∀ raw path, path.length ≤ renderer.maxDepth + 1 →
      visitBelow raw path = renderer.visitThrough visitBelow raw path)
    (visible : path.length ≤ renderer.maxDepth + 1) :
    visitBelow raw path = renderer.render raw path := by
  -- by induction on the number of levels below the path
  induction left : renderer.maxDepth + 1 - path.length generalizing raw path with
  | zero =>
      have tooLong : ¬path.length ≤ renderer.maxDepth := by omega
      rw [steps raw path visible, renderer.render_eq_visitThrough]
      exact visitThrough_congr fun within => absurd within tooLong
  | succ levels ih =>
      rw [steps raw path visible, renderer.render_eq_visitThrough]
      apply visitThrough_congr
      intro within child index
      have childVisible : (path ++ [index]).length ≤ renderer.maxDepth + 1 := by
        simpa using within
      apply ih childVisible
      rw [List.length_append, List.length_singleton]
      omega

/-- What a procedure does at longer paths is of no account for the components of a
page. -/
theorem renderEach_eq_renderChildren {visitBelow : Value → Path → Report Element}
    (steps : ∀ raw path, path.length ≤ renderer.maxDepth + 1 →
      visitBelow raw path = renderer.visitThrough visitBelow raw path) :
    renderEach visitBelow [] 0 raws = renderer.renderChildren raws [] := by
  unfold renderChildren
  apply renderEach_congr_procedure
  intro raw index
  rw [visitBelow_eq_render steps (by simp), render, levelsAt]
  rfl

end Paths

/-! ## Components at the last level -/

/-- Components of one type get the same notice of depth. -/
theorem visit_zero_congr (component : raw.isComponent = true)
    (otherComponent : other.isComponent = true)
    (sameType : renderer.catalogue.typeOf other = renderer.catalogue.typeOf raw) :
    renderer.visit 0 other path = renderer.visit 0 raw path := by
  rw [renderer.visit_zero (Node.isComponent_iff.1 component),
    renderer.visit_zero (Node.isComponent_iff.1 otherComponent), sameType]

/-- Only the outside of a component is seen when no levels are left. -/
theorem visit_zero_of_looksLike (alike : raw.LooksLike other) :
    renderer.visit 0 other path = renderer.visit 0 raw path := by
  cases alike with
  | object sameType =>
      apply visit_zero_congr rfl rfl
      rw [Catalogue.typeOf_object, Catalogue.typeOf_object, sameType]
  | text shown other => exact visit_zero_congr rfl rfl rfl
  | textObject shown typed =>
      apply visit_zero_congr rfl rfl
      rw [Catalogue.typeOf_object, typed]
      rfl
  | malformed noComponent sameKind =>
      have otherNoComponent := Value.isComponent_eq_of_kindName sameKind
      rw [noComponent] at otherNoComponent
      rw [renderer.visit_of_malformed (Node.ofValue_eq_malformed_iff.2 ⟨noComponent, rfl⟩),
        renderer.visit_of_malformed
          (Node.ofValue_eq_malformed_iff.2 ⟨otherNoComponent, sameKind⟩)]

/-- Components at the last level below a component are exchanged unnoticed. -/
theorem visit_exchangeBelow {exchange : List Nat → Value → Value}
    (alike : ∀ below node, below.length = levels →
      renderer.catalogue.descendant? raw below = some node →
      node.LooksLike (exchange below node)) :
    renderer.visit levels (renderer.catalogue.exchangeBelow levels exchange raw) path =
      renderer.visit levels raw path := by
  induction levels generalizing raw path exchange with
  | zero => exact visit_zero_of_looksLike (alike [] raw rfl rfl)
  | succ levels ih =>
      rw [Catalogue.exchangeBelow]
      cases inside : renderer.catalogue.inner raw with
      | nil => rfl
      | cons first rest =>
          have member : first ∈ renderer.catalogue.inner raw := by simp [inside]
          obtain ⟨fields, rfl, container⟩ := Catalogue.eq_object_of_mem_inner member
          obtain ⟨primitive, presented⟩ := Catalogue.isContainer_iff.1 container
          rw [Catalogue.inner_object container] at inside
          have children : renderEach (renderer.visit levels) path 0
                ((first :: rest).mapIdx fun index child =>
                  renderer.catalogue.exchangeBelow levels
                    (fun below => exchange (index :: below)) child) =
              renderEach (renderer.visit levels) path 0 (first :: rest) := by
            apply renderEach_mapIdx
            intro index child atIndex
            apply ih
            intro below node length found
            apply alike (index :: below) node (congrArg Nat.succ length)
            rw [Catalogue.descendant?_cons_eq_some_iff, Catalogue.inner_object container, inside]
            exact ⟨child, atIndex, found⟩
          rw [visit_withChildren _ presented, visit_container presented, inside, children]

/-- A page of components depends on these through their rendering. -/
theorem renderComponents_congr (listed : raws ≠ []) (otherListed : others ≠ [])
    (same : renderer.renderChildren others [] = renderer.renderChildren raws []) :
    renderer.renderComponents others = renderer.renderComponents raws := by
  cases raws with
  | nil => exact absurd rfl listed
  | cons first rest =>
      cases others with
      | nil => exact absurd rfl otherListed
      | cons otherFirst otherRest => simp only [renderComponents, same]

/-- Components at the last level that is looked at are exchanged unnoticed. -/
theorem renderPage_exchangeAt {exchange : List Nat → Value → Value}
    (alike : ∀ position node, position.length = renderer.maxDepth + 1 →
      renderer.catalogue.componentAt? page position = some node →
      node.LooksLike (exchange position node)) :
    renderer.renderPage (renderer.catalogue.exchangeAt renderer.maxDepth exchange page) =
      renderer.renderPage page := by
  by_cases listed : page.components = []
  · have unchanged : renderer.catalogue.exchangeAt renderer.maxDepth exchange page = page := by
      rw [Catalogue.exchangeAt, listed]
    rw [unchanged]
  · have children : renderer.renderChildren
          (renderer.catalogue.exchangeAt renderer.maxDepth exchange page).components [] =
        renderer.renderChildren page.components [] := by
      rw [Catalogue.components_exchangeAt]
      apply renderEach_mapIdx
      intro index top atIndex
      apply visit_exchangeBelow
      intro below node length found
      apply alike (index :: below) node (congrArg Nat.succ length)
      rw [Catalogue.componentAt?_cons_eq_some_iff]
      exact ⟨top, atIndex, found⟩
    have stillListed :
        (renderer.catalogue.exchangeAt renderer.maxDepth exchange page).components ≠ [] := by
      simpa [Catalogue.components_exchangeAt] using listed
    rw [renderer.renderPage_of_listed listed, renderer.renderPage_of_listed stillListed,
      renderComponents_congr listed stillListed children]

/-- The walk looks one level ahead.  It takes its steps by the length of paths, and what
is done at paths of more than `maxDepth + 1` indices does not show in a rendering, so
none of them is visited.  Exchanging each of the components at the last level that is
looked at for one that looks alike changes nothing: not whether the page is rendered,
nor the tree or the fault, nor the events, nor the counters. -/
theorem looks_ahead_one_level (renderer : Renderer) :
    (∀ raw path, renderer.render raw path = renderer.visitThrough renderer.render raw path) ∧
    (∀ visitBelow : Value → Path → Report Element,
      (∀ raw path, path.length ≤ renderer.maxDepth + 1 →
        visitBelow raw path = renderer.visitThrough visitBelow raw path) →
      ∀ components,
        renderEach visitBelow [] 0 components = renderer.renderChildren components []) ∧
    ∀ (page : Value) (exchange : List Nat → Value → Value),
      (∀ position, position.length = renderer.maxDepth + 1 →
        renderer.catalogue.componentAt?
            (renderer.catalogue.exchangeAt renderer.maxDepth exchange page) position =
          (renderer.catalogue.componentAt? page position).map (exchange position)) ∧
      ((∀ position node, position.length = renderer.maxDepth + 1 →
          renderer.catalogue.componentAt? page position = some node →
          node.LooksLike (exchange position node)) →
        renderer.renderPage (renderer.catalogue.exchangeAt renderer.maxDepth exchange page) =
          renderer.renderPage page) := by
  refine ⟨renderer.render_eq_visitThrough, ?_, ?_⟩
  · intro visitBelow steps components
    exact renderEach_eq_renderChildren steps
  · intro page exchange
    constructor
    · intro position length
      exact Catalogue.componentAt?_exchangeAt length
    · intro alike
      exact renderPage_exchangeAt alike

/-- With one level, a procedure that fails at paths of three indices renders every page
as before, and the contents of the components inside a container are not read. -/
theorem looks_ahead_of_one_level :
    let renderer : Renderer :=
      ⟨Theme.standard, Catalogue.standard, Host.none, 1, Nat.one_pos⟩
    let failing : Value → Path → Report Element := fun raw path =>
      if path.length ≤ 2 then renderer.render raw path else .fault .childlessContainer
    let page : Value := .array [.object [("type", .string "container"), ("children", .array
      [.string "inner", .array [.null],
        .object [("type", .string "container"), ("children", .array [.string "deep"])]])]]
    let bare : Value := .array [.object [("type", .string "container"), ("children", .array
      [.string "", .array [], .object [("type", .string "container")]])]]
    (∀ raw path, path.length ≤ 2 → failing raw path = renderer.visitThrough failing raw path) ∧
      (∀ components,
        renderEach failing [] 0 components = renderer.renderChildren components []) ∧
      (∀ position node, position.length = 2 →
        renderer.catalogue.componentAt? page position = some node →
        node.LooksLike node.bare) ∧
      renderer.renderPage bare = renderer.renderPage page := by
  intro renderer failing page bare
  have steps : ∀ raw path, path.length ≤ renderer.maxDepth + 1 →
      failing raw path = renderer.visitThrough failing raw path := by
    intro raw path visible
    have atPath : failing raw path = renderer.render raw path := if_pos visible
    rw [atPath, renderer.render_eq_visitThrough]
    apply visitThrough_congr
    intro within child index
    have childVisible : (path ++ [index]).length ≤ 2 := by simpa using within
    exact (if_pos childVisible).symm
  have alike : ∀ position node, position.length = renderer.maxDepth + 1 →
      renderer.catalogue.componentAt? page position = some node →
      node.LooksLike node.bare := fun _ node _ _ => node.looksLike_bare
  obtain ⟨-, sameProcedure, sameExchange⟩ := looks_ahead_one_level renderer
  have samePage := (sameExchange page fun _ node => node.bare).2 alike
  have exchanged :
      renderer.catalogue.exchangeAt renderer.maxDepth (fun _ node => node.bare) page = bare := by
    rfl
  rw [exchanged] at samePage
  exact ⟨steps, sameProcedure failing steps, alike, samePage⟩

end Renderer

end PageTree
