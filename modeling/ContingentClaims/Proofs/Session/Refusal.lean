import ContingentClaims.Proofs.Session.Invariant

/-!
# Refused operations

A refusal comes before any change. Whatever a session is and however its operations call
one another, an operation that is refused leaves everything as it was, except that names
may be used up that a subtree was numbered with before it turned out not to fit
(`performsSafely`). Operations on the menu and on the lock cannot touch the tree at all.
-/

namespace ContingentClaims

/-- Whether an answer reports a failure: an effect that did not take place, or input that
is refused. -/
def Answer.isFailure : Answer -> Bool
  | .done => false
  | .effect took => !took
  | .refused _ => true

/-- The operations on the menu and on the lock. -/
def Operation.concernsMenu : Operation -> Bool
  | openMenu _ => true
  | closeMenu => true
  | click _ => true
  | setLocked _ => true
  | hover _ _ => true
  | expand _ => true
  | select _ => false
  | replace _ _ => false
  | setLabel _ _ => false
  | setLeaf _ _ _ => false

namespace Session

/-- The source of identifiers that a refused operation leaves. -/
inductive UsesUp (session : Session) : Operation -> IdSource -> Prop
  | nothing (operation : Operation) : session.UsesUp operation session.ids
  /-- The template of an entry of the open menu was run. -/
  | chosen
      {entry : NodeId}
      {catalog : Catalog}
      {choice : MenuEntry}
      {template : Template}
      (shown : session.menu? = some catalog)
      (found : catalog.find? entry = some choice)
      (offered : choice.template = some template) :
      session.UsesUp (.select entry) (template.run session.ids).2
  /-- One name was drawn for the node of a leaf that could be read. -/
  | typed
      {id : NodeId}
      {kind : LeafKind}
      {literal : String}
      {target : Tree}
      {leaf : Leaf}
      (found : session.root.find? id = some target)
      (accepted : session.inputError? target kind = none)
      (read : Leaf.ofLiteral kind literal = .ok leaf) :
      session.UsesUp (.setLeaf id kind literal) (session.ids.skip 1)

/-- Nothing changed but the source, and this only by what the operation uses up. -/
def IsKeptBy
    (session : Session)
    (operation : Operation) : Prop :=
  ∃ ids, session.UsesUp operation ids ∧
    (session.perform operation).1 = { session with ids }

variable {session : Session}

theorem isKeptBy_of_eq
    {operation : Operation}
    (same : (session.perform operation).1 = session) :
    session.IsKeptBy operation :=
  ⟨session.ids, .nothing operation, same⟩

/-! ## Single operations -/

theorem expand_eq_of_refused
    {path : List NodeId}
    (refused : (session.expand path).2 = false) :
    (session.expand path).1 = session := by
  rcases session.expand_cases path with same | ⟨catalog, categories, _, _, expanded⟩
  · rw [same]
  · rw [expanded] at refused
    cases refused

theorem replace_eq_of_refused
    {id : NodeId}
    {subtree : Tree}
    (refused : (session.replace id subtree).2 = false) :
    (session.replace id subtree).1 = session := by
  rcases session.replace_cases id subtree with same | ⟨root, _, took⟩
  · rw [same]
  · rw [took] at refused
    cases refused

theorem setLabel_eq_of_refused
    {id : NodeId}
    {label : String}
    (refused : (session.setLabel id label).2 = false) :
    (session.setLabel id label).1 = session := by
  rcases session.setLabel_cases id label with same | ⟨root, _, _, took⟩
  · rw [same]
  · rw [took] at refused
    cases refused

/-- A selection is refused before its template is run, or the tree of the template is. -/
theorem isKeptBy_select
    {entry : NodeId}
    (refused : (session.select entry).2 = false) :
    session.IsKeptBy (.select entry) := by
  rcases session.select_cases entry with
    same | ⟨target, catalog, choice, template, opened, shown, found, offered, selected⟩
  · exact isKeptBy_of_eq (congrArg Prod.fst same)
  · rw [selected] at refused
    refine ⟨_, .chosen shown found offered, ?_⟩
    rw [perform, selected]
    exact replace_eq_of_refused refused

/-- Typed input fails if it is refused, and if the node of its leaf is. -/
theorem isFailure_setLeaf_iff
    {id : NodeId}
    {kind : LeafKind}
    {literal : String} :
    (session.perform (.setLeaf id kind literal)).2.isFailure = true ↔
      (session.setLeaf id kind literal).2 ≠ .ok true := by
  simp only [perform]
  split
  next changed took answer => cases took <;> simp [answer, Answer.isFailure]
  next kept error answer => simp [answer, Answer.isFailure]

/-- Typed input is refused before a name is drawn, or the node of its leaf is refused. -/
theorem isKeptBy_setLeaf
    {id : NodeId}
    {kind : LeafKind}
    {literal : String}
    (failed : (session.setLeaf id kind literal).2 ≠ .ok true) :
    session.IsKeptBy (.setLeaf id kind literal) := by
  rcases session.setLeaf_cases id kind literal with
    ⟨answer, _, same⟩ | ⟨target, leaf, result, found, accepted, read, replaced, typed⟩
  · refine isKeptBy_of_eq ?_
    rw [perform_setLeaf, same]
  · refine ⟨_, .typed found accepted read, ?_⟩
    rw [perform_setLeaf, typed]
    have refused : result.2 = false := by
      rw [Bool.eq_false_iff]
      intro took
      rw [typed, took] at failed
      exact failed rfl
    subst replaced
    exact replace_eq_of_refused refused

/-! ## All operations -/

/-- What is guaranteed of an operation, whether or not it is refused. -/
structure PerformsSafely
    (session : Session)
    (operation : Operation) : Prop where
  /-- Refused, it changes nothing but the source. -/
  kept_of_failure :
    (session.perform operation).2.isFailure = true -> session.IsKeptBy operation
  /-- On the menu and on the lock, it leaves the tree, the catalogs and the source. -/
  content_of_menu :
    operation.concernsMenu = true -> session.SameContent (session.perform operation).1

theorem isKeptBy_of_isFailure
    {operation : Operation}
    (failed : (session.perform operation).2.isFailure = true) :
    session.IsKeptBy operation := by
  cases operation with
  | openMenu id => cases failed
  | closeMenu => cases failed
  | click id => cases failed
  | setLocked locked => cases failed
  | hover depth entry =>
      simp only [perform, Answer.isFailure, Bool.not_eq_true'] at failed
      exact isKeptBy_of_eq (expand_eq_of_refused failed)
  | expand path =>
      simp only [perform, Answer.isFailure, Bool.not_eq_true'] at failed
      exact isKeptBy_of_eq (expand_eq_of_refused failed)
  | select entry =>
      simp only [perform, Answer.isFailure, Bool.not_eq_true'] at failed
      exact isKeptBy_select failed
  | replace id subtree =>
      simp only [perform, Answer.isFailure, Bool.not_eq_true'] at failed
      exact isKeptBy_of_eq (replace_eq_of_refused failed)
  | setLabel id label =>
      simp only [perform, Answer.isFailure, Bool.not_eq_true'] at failed
      exact isKeptBy_of_eq (setLabel_eq_of_refused failed)
  | setLeaf id kind literal => exact isKeptBy_setLeaf (isFailure_setLeaf_iff.1 failed)

theorem sameContent_of_concernsMenu
    {operation : Operation}
    (concernsMenu : operation.concernsMenu = true) :
    session.SameContent (session.perform operation).1 := by
  cases operation with
  | openMenu id => exact session.sameContent_openMenu id
  | closeMenu => exact session.sameContent_closeMenu
  | click id => exact session.sameContent_click id
  | setLocked locked => exact session.sameContent_setLocked locked
  | hover depth entry => exact session.sameContent_expand _
  | expand path => exact session.sameContent_expand path
  | select entry => cases concernsMenu
  | replace id subtree => cases concernsMenu
  | setLabel id label => cases concernsMenu
  | setLeaf id kind literal => cases concernsMenu

/-- In every session and for every operation, a refusal changes nothing but the source, and
operations on the menu and the lock leave the tree alone. -/
theorem performsSafely
    (session : Session)
    (operation : Operation) :
    session.PerformsSafely operation where
  kept_of_failure := isKeptBy_of_isFailure
  content_of_menu := sameContent_of_concernsMenu

/-- Where every name clashes, a selection is refused after its names are drawn. -/
example :
    let session : Session :=
      { root := .claim "choice" .or [.claim "expire" .zero [], .placeholder "exercise" .claim]
        catalogs :=
          ⟨⟨.claim, [⟨"give", "Give", [], some Template.give⟩]⟩, ⟨.observation, []⟩,
            ⟨.inequality, []⟩⟩
        ids := { nameAt := fun _ => "expire" }
        openNode := some "exercise" }
    (session.perform (.select "give")).2.isFailure = true ∧
      (session.perform (.select "give")).1.ids.drawn = 2 := by
  cbv

end Session
end ContingentClaims
