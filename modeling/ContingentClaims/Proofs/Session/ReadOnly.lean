import ContingentClaims.Proofs.Session.Invariant

/-!
# Read-only sessions

What the lock of a session keeps off. A locked session has no open menu, and until it
is unlocked nothing that goes through the menu, and no renaming of an alternative,
changes anything in it. The lock does not reach the direct edits: a subtree that is
put in from outside and typed input are taken as in any other session. So what a run
of operations makes of a locked session is what its direct edits alone make of it.
-/

namespace ContingentClaims

/-- The operations that edit the tree without the menu and without the lock being
asked. -/
def Operation.isDirectEdit : Operation -> Bool
  | replace _ _ => true
  | setLeaf _ _ _ => true
  | _ => false

namespace Session

/-- A session as it comes about: started on any tree and driven by any operations. -/
def IsReachable (session : Session) : Prop :=
  ∃ (root : Tree) (catalogs : Catalogs) (ids : IdSource) (operations : List Operation),
    session = ({ root, catalogs, ids } : Session).performAll operations

/-- A locked session, in which no menu is open. -/
structure IsReadOnly (session : Session) : Prop where
  locked : session.locked = true
  closed : session.openNode = none
  unexpanded : session.path = []

/-! ## The lock -/

theorem locked_openMenu
    (session : Session)
    (id : NodeId) :
    (session.openMenu id).locked = session.locked := by
  rcases session.openMenu_cases id with same | ⟨node, _, _, _, opened⟩
  · rw [same]
  · rw [opened]

theorem locked_expand
    (session : Session)
    (path : List NodeId) :
    (session.expand path).1.locked = session.locked := by
  rcases session.expand_cases path with refused | ⟨catalog, categories, _, _, expanded⟩
  · rw [refused]
  · rw [expanded]

theorem locked_replace
    (session : Session)
    (id : NodeId)
    (subtree : Tree) :
    (session.replace id subtree).1.locked = session.locked := by
  rcases session.replace_cases id subtree with refused | ⟨root, _, took⟩
  · rw [refused]
  · rw [took]

theorem locked_setLeaf
    (session : Session)
    (id : NodeId)
    (kind : LeafKind)
    (literal : String) :
    (session.setLeaf id kind literal).1.locked = session.locked := by
  rcases session.setLeaf_cases id kind literal with
    ⟨answer, _, refused⟩ | ⟨target, leaf, _, _, _, _, rfl, typed⟩
  · rw [refused]
  · rw [typed]
    exact locked_replace _ id _

/-- Only switching the lock touches it. -/
theorem locked_perform
    {session : Session}
    {operation : Operation}
    (noSwitch : ∀ locked, operation ≠ .setLocked locked) :
    (session.perform operation).1.locked = session.locked := by
  cases operation with
  | openMenu id => exact session.locked_openMenu id
  | closeMenu => rfl
  | click id =>
      simp only [perform, click]
      split
      · rfl
      · exact session.locked_openMenu id
  | setLocked locked => exact absurd rfl (noSwitch locked)
  | hover depth entry => exact session.locked_expand _
  | expand path => exact session.locked_expand path
  | select entry =>
      rw [perform]
      rcases session.select_cases entry with refused | ⟨target, _, _, _, _, _, _, _, selected⟩
      · rw [refused]
      · rw [selected]
        exact locked_replace _ _ _
  | replace id subtree => exact session.locked_replace id subtree
  | setLabel id label =>
      rw [perform]
      rcases session.setLabel_cases id label with refused | ⟨root, _, _, took⟩
      · rw [refused]
      · rw [took]
  | setLeaf id kind literal =>
      rw [perform_setLeaf]
      exact session.locked_setLeaf id kind literal

/-! ## Steps of a read-only session -/

variable {session : Session} {operation : Operation}

theorem IsReadOnly.menu?_eq_none (readOnly : session.IsReadOnly) : session.menu? = none := by
  simp [menu?, readOnly.closed]

theorem IsReadOnly.closeMenu_eq (readOnly : session.IsReadOnly) :
    session.closeMenu = session := by
  obtain ⟨_, closed, unexpanded⟩ := readOnly
  rcases session with ⟨root, catalogs, ids, openNode, path, locked⟩
  subst closed unexpanded
  rfl

theorem IsReadOnly.openMenu_eq
    (readOnly : session.IsReadOnly)
    (id : NodeId) :
    session.openMenu id = session := by
  simp [openMenu, readOnly.locked]

theorem IsReadOnly.expand_eq
    (readOnly : session.IsReadOnly)
    (path : List NodeId) :
    (session.expand path).1 = session := by
  simp [expand, readOnly.menu?_eq_none]

/-- A replacement leaves no menu open, whether or not it takes place. -/
theorem IsReadOnly.replace
    (readOnly : session.IsReadOnly)
    (id : NodeId)
    (subtree : Tree) :
    (session.replace id subtree).1.IsReadOnly := by
  rcases session.replace_cases id subtree with refused | ⟨root, _, took⟩
  · rw [refused]
    exact readOnly
  · rw [took]
    exact ⟨readOnly.locked, rfl, rfl⟩

/-- Unless it is unlocked or edited directly, a read-only session does not change. -/
theorem IsReadOnly.perform_eq
    (readOnly : session.IsReadOnly)
    (stays : operation ≠ .setLocked false)
    (indirect : operation.isDirectEdit = false) :
    (session.perform operation).1 = session := by
  cases operation with
  | openMenu id => exact readOnly.openMenu_eq id
  | closeMenu => exact readOnly.closeMenu_eq
  | click id =>
      simp only [perform, click, readOnly.closeMenu_eq, readOnly.openMenu_eq, ite_self]
  | setLocked locked =>
      cases locked with
      | false => exact absurd rfl stays
      | true =>
          have relocked : { session with locked := true } = session := by
            rw [← readOnly.locked]
          simp only [perform, setLocked, relocked, if_true, readOnly.closeMenu_eq]
  | hover depth entry => exact readOnly.expand_eq _
  | expand path => exact readOnly.expand_eq path
  | select entry => simp [perform, select, readOnly.closed]
  | replace id subtree => simp [Operation.isDirectEdit] at indirect
  | setLabel id label => simp [perform, setLabel, readOnly.locked]
  | setLeaf id kind literal => simp [Operation.isDirectEdit] at indirect

/-- A session stays read-only under every operation that does not unlock it. -/
theorem IsReadOnly.perform
    (readOnly : session.IsReadOnly)
    (stays : operation ≠ .setLocked false) :
    (session.perform operation).1.IsReadOnly := by
  cases direct : operation.isDirectEdit with
  | false =>
      rw [readOnly.perform_eq stays direct]
      exact readOnly
  | true =>
      cases operation with
      | replace id subtree => exact readOnly.replace id subtree
      | setLeaf id kind literal =>
          rw [perform_setLeaf]
          rcases session.setLeaf_cases id kind literal with
            ⟨answer, _, refused⟩ | ⟨target, leaf, _, _, _, _, rfl, typed⟩
          · rw [refused]
            exact readOnly
          · have drawn : IsReadOnly { session with ids := (leaf.encode.run session.ids).2 } :=
              ⟨readOnly.locked, readOnly.closed, readOnly.unexpanded⟩
            rw [typed]
            exact drawn.replace id (leaf.encode.run session.ids).1
      | _ => simp [Operation.isDirectEdit] at direct

/-! ## Runs -/

theorem IsReadOnly.performAll
    {operations : List Operation}
    (readOnly : session.IsReadOnly)
    (stays : Operation.setLocked false ∉ operations) :
    (session.performAll operations).IsReadOnly := by
  induction operations generalizing session with
  | nil => exact readOnly
  | cons operation rest restHypothesis =>
      rw [List.mem_cons, not_or] at stays
      exact restHypothesis (readOnly.perform (Ne.symm stays.1)) stays.2

/-- A run makes of a read-only session what its direct edits alone make of it. -/
theorem IsReadOnly.performAll_eq
    {operations : List Operation}
    (readOnly : session.IsReadOnly)
    (stays : Operation.setLocked false ∉ operations) :
    session.performAll operations =
      session.performAll (operations.filter Operation.isDirectEdit) := by
  induction operations generalizing session with
  | nil => rfl
  | cons operation rest restHypothesis =>
      rw [List.mem_cons, not_or] at stays
      rw [performAll_cons]
      cases direct : operation.isDirectEdit with
      | false =>
          rw [readOnly.perform_eq (Ne.symm stays.1) direct,
            List.filter_cons_of_neg (by simp [direct])]
          exact restHypothesis readOnly stays.2
      | true =>
          rw [List.filter_cons_of_pos direct, performAll_cons]
          exact restHypothesis (readOnly.perform (Ne.symm stays.1)) stays.2

/-- In whatever way a session was locked, no menu is open in it. -/
theorem isReadOnly_performAll_of_locked
    {operations : List Operation}
    (consistent : session.locked = true -> session.IsReadOnly)
    (locked : (session.performAll operations).locked = true) :
    (session.performAll operations).IsReadOnly := by
  induction operations generalizing session with
  | nil => exact consistent locked
  | cons operation rest restHypothesis =>
      refine restHypothesis (fun stillLocked => ?_) locked
      by_cases switched : ∃ on, operation = .setLocked on
      · obtain ⟨on, rfl⟩ := switched
        cases on with
        | false => simp [Session.perform, setLocked] at stillLocked
        | true => exact ⟨rfl, rfl, rfl⟩
      · have noSwitch (on : Bool) : operation ≠ .setLocked on :=
          fun same => switched ⟨on, same⟩
        rw [locked_perform noSwitch] at stillLocked
        exact (consistent stillLocked).perform (noSwitch false)

theorem IsReachable.isReadOnly
    (reachable : session.IsReachable)
    (locked : session.locked = true) :
    session.IsReadOnly := by
  obtain ⟨root, catalogs, ids, operations, rfl⟩ := reachable
  exact isReadOnly_performAll_of_locked (fun unlocked => by simp at unlocked) locked

/-- As long as a locked session is not unlocked no menu is ever open, and its tree is
what the direct edits alone make of it. It is the tree as it was if there are none. -/
theorem locked_run
    {operations : List Operation}
    (reachable : session.IsReachable)
    (locked : session.locked = true)
    (stays : Operation.setLocked false ∉ operations) :
    (∀ earlier, earlier <+: operations ->
      (session.performAll earlier).locked = true ∧
        (session.performAll earlier).openNode = none) ∧
    (session.performAll operations).root =
      (session.performAll (operations.filter Operation.isDirectEdit)).root ∧
    ((∀ operation ∈ operations, operation.isDirectEdit = false) ->
      (session.performAll operations).root = session.root) := by
  have readOnly := reachable.isReadOnly locked
  have onlyDirect := readOnly.performAll_eq stays
  refine ⟨fun earlier isEarlier => ?_, by rw [onlyDirect], fun indirect => ?_⟩
  · have earlierReadOnly := readOnly.performAll fun unlocks => stays (isEarlier.subset unlocks)
    exact ⟨earlierReadOnly.locked, earlierReadOnly.closed⟩
  · have none : operations.filter Operation.isDirectEdit = [] := by
      rw [List.filter_eq_nil_iff]
      intro operation present
      simp [indirect operation present]
    rw [onlyDirect, none, performAll_nil]

/-- A blank session that is locked while its menu is open, and then driven by a click, a
choice and a renaming, once with typed input at the end and once without. -/
theorem locked_run_blank :
    let catalogs : Catalogs := ⟨⟨.claim, []⟩, ⟨.observation, []⟩, ⟨.inequality, []⟩⟩
    let session : Session :=
      ({ root := .placeholder "n0" .claim, catalogs, ids := { nameAt := fun _ => "n1" } } : Session
        ).performAll [.openMenu "n0", .setLocked true]
    let operations : List Operation :=
      [.click "n0", .select "give", .setLabel "n0" "Exercise"]
    let typed : Operation := .setLeaf "n0" .decimal "1"
    session.IsReachable ∧ session.locked = true ∧
      Operation.setLocked false ∉ operations ++ [typed] ∧
      (∀ earlier, earlier <+: operations ++ [typed] ->
        (session.performAll earlier).locked = true ∧
          (session.performAll earlier).openNode = none) ∧
      (session.performAll (operations ++ [typed])).root = (session.performAll [typed]).root ∧
      (session.performAll operations).root = session.root := by
  intro catalogs session operations typed
  have reachable : session.IsReachable := ⟨_, _, _, _, rfl⟩
  have stays : Operation.setLocked false ∉ operations ++ [typed] := by
    simp [operations, typed]
  have indirectStays : Operation.setLocked false ∉ operations := by
    simp [operations]
  have indirect : ∀ operation ∈ operations, operation.isDirectEdit = false := by
    simp [operations, Operation.isDirectEdit]
  have typedRun := locked_run reachable rfl stays
  have indirectRun := locked_run reachable rfl indirectStays
  exact ⟨reachable, rfl, stays, typedRun.1, typedRun.2.1, indirectRun.2.2 indirect⟩

/-- The lock does not keep a subtree from being put in from outside. -/
theorem replace_in_locked_session :
    let catalogs : Catalogs := ⟨⟨.claim, []⟩, ⟨.observation, []⟩, ⟨.inequality, []⟩⟩
    let session : Session :=
      ({ root := .placeholder "n0" .claim, catalogs, ids := { nameAt := fun _ => "n1" } } : Session
        ).performAll [.setLocked true]
    session.IsReachable ∧ session.locked = true ∧
      (session.performAll [.replace "n0" (.claim "z" .zero [])]).root ≠ session.root := by
  intro catalogs session
  have zeroValid : (Tree.claim "z" .zero []).Grammatical := by
    rw [← Tree.isValid_iff, Tree.isValid, (Tree.validate_eq_ok_iff _).2 (by decide)]
    rfl
  have distinct : (Context.plug [] (.placeholder "n0" .claim)).ids.Nodup := by
    rw [Tree.ids_eq_map]
    decide
  have stays : (Tree.claim "n0" .zero []).ids.Nodup := by
    rw [Tree.ids_eq_map]
    decide
  have spliced : session.root.splice? "n0" (.claim "z" .zero []) =
      some (.claim "n0" .zero []) :=
    (Context.splice?_plug distinct _ _).2 ⟨zeroValid, rfl, stays, rfl⟩
  refine ⟨⟨_, _, _, _, rfl⟩, rfl, fun same => ?_⟩
  have tags := congrArg Tree.tag same
  simp [perform, Session.replace, spliced, closeMenu] at tags
  exact absurd tags (by decide)

end Session
end ContingentClaims
