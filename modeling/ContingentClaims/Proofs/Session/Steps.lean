import ContingentClaims.Session.Operation

/-!
# What an operation does

An operation is refused or has its one effect, which is said once for each kind of operation
(`openMenu_cases`, `replace_cases` and so on). From this comes one account of all that an
operation can do to the tree of a session (`changes_perform`), from which every invariant of the
tree is derived, and the parts of a session that no operation touches. A property of trees that
no edit destroys holds throughout a run if it holds at the start (`performAll_keeps`).
-/

namespace ContingentClaims

/-- A tree that an edit leaves: a subtree is spliced in, or an alternative gets another
label. -/
inductive Tree.EditsTo (root : Tree) : Tree -> Prop
  | splice
      {id : NodeId}
      {subtree changed : Tree}
      (spliced : root.splice? id subtree = some changed) :
      root.EditsTo changed
  | relabel
      {id : NodeId}
      {label : String}
      {changed : Tree}
      (relabelled : root.relabel? id label = some changed) :
      root.EditsTo changed

/-- Typing makes the same node for a leaf as encoding: a node for an asset shows the identifier
of the asset, and no other one shows a text. -/
theorem Leaf.typedNode_eq_encode
    (leaf : Leaf)
    (source : IdSource) :
    (leaf.typedNode source.peek, source.skip 1) = leaf.encode.run source := by
  cases leaf <;> rfl

namespace Session

/-! ## Single operations -/

/-- A menu stays as it is, or the menu of an operator node opens. -/
theorem openMenu_cases
    (session : Session)
    (id : NodeId) :
    session.openMenu id = session ∨
      ∃ node, session.locked = false ∧ session.root.find? id = some node ∧
        node.type ≠ .value ∧
        session.openMenu id = { session with openNode := some id, path := [] } := by
  unfold openMenu
  split
  next refused => exact Or.inl rfl
  next allowed =>
    split
    next missing => exact Or.inl rfl
    next node found =>
      split
      next isValue => exact Or.inl rfl
      next operator =>
        simp only [Bool.or_eq_true, not_or, Bool.not_eq_true] at allowed
        exact Or.inr ⟨node, allowed.1, found, operator, rfl⟩

/-- A path is refused, or it leads through categories of the open menu. -/
theorem expand_cases
    (session : Session)
    (path : List NodeId) :
    session.expand path = (session, false) ∨
      ∃ catalog categories, session.menu? = some catalog ∧
        catalog.resolvePath? path = some categories ∧
        session.expand path = ({ session with path }, true) := by
  unfold expand
  split
  next closed => exact Or.inl rfl
  next catalog shown =>
    split
    next unresolved => exact Or.inl rfl
    next categories resolved => exact Or.inr ⟨catalog, categories, shown, resolved, rfl⟩

/-- A replacement is refused, or it splices its subtree in and closes the menu. -/
theorem replace_cases
    (session : Session)
    (id : NodeId)
    (subtree : Tree) :
    session.replace id subtree = (session, false) ∨
      ∃ root, session.root.splice? id subtree = some root ∧
        session.replace id subtree =
          ({ session with root, openNode := none, path := [] }, true) := by
  unfold replace
  cases session.root.splice? id subtree with
  | none => exact Or.inl rfl
  | some root => exact Or.inr ⟨root, rfl, rfl⟩

/-- A selection is refused, or it replaces the open node by the tree of a template from the
open menu. -/
theorem select_cases
    (session : Session)
    (entry : NodeId) :
    session.select entry = (session, false) ∨
      ∃ target catalog choice template, session.openNode = some target ∧
        session.menu? = some catalog ∧ catalog.find? entry = some choice ∧
        choice.template = some template ∧
        session.select entry =
          ({ session with ids := (template.run session.ids).2 } : Session).replace target
            (template.run session.ids).1 := by
  unfold select
  dsimp only
  split
  next target template opened offered =>
    obtain ⟨catalog, shown, offered⟩ := Option.bind_eq_some_iff.1 offered
    obtain ⟨choice, found, offered⟩ := Option.bind_eq_some_iff.1 offered
    exact Or.inr ⟨target, catalog, choice, template, opened, shown, found, offered, rfl⟩
  next unavailable => exact Or.inl rfl

/-- A label is refused, or an alternative gets it in an unlocked session. -/
theorem setLabel_cases
    (session : Session)
    (id : NodeId)
    (label : String) :
    session.setLabel id label = (session, false) ∨
      ∃ root, session.locked = false ∧ session.root.relabel? id label = some root ∧
        session.setLabel id label = ({ session with root }, true) := by
  unfold setLabel
  split
  next locked => exact Or.inl rfl
  next unlocked =>
    rw [Bool.not_eq_true] at unlocked
    cases session.root.relabel? id label with
    | none => exact Or.inl rfl
    | some root => exact Or.inr ⟨root, unlocked, rfl, rfl⟩

/-- Typed input in terms of the encoder of leaves. -/
theorem setLeaf_eq
    (session : Session)
    (id : NodeId)
    (kind : LeafKind)
    (literal : String) :
    session.setLeaf id kind literal =
      match session.root.find? id with
      | none => (session, .ok false)
      | some target =>
          match session.inputError? target kind, Leaf.ofLiteral kind literal with
          | some error, _ => (session, .error error)
          | none, .error error => (session, .error error)
          | none, .ok leaf =>
              let (node, ids) := leaf.encode.run session.ids
              let (session, changed) := { session with ids }.replace id node
              (session, .ok changed) := by
  simp only [← Leaf.typedNode_eq_encode]
  rfl

/-- Typed input is refused, or the node is replaced by that of a leaf that was read. -/
theorem setLeaf_cases
    (session : Session)
    (id : NodeId)
    (kind : LeafKind)
    (literal : String) :
    (∃ answer, answer ≠ .ok true ∧ session.setLeaf id kind literal = (session, answer)) ∨
      ∃ target leaf result, session.root.find? id = some target ∧
        session.inputError? target kind = none ∧ Leaf.ofLiteral kind literal = .ok leaf ∧
        ({ session with ids := (leaf.encode.run session.ids).2 } : Session).replace id
          (leaf.encode.run session.ids).1 = result ∧
        session.setLeaf id kind literal = (result.1, .ok result.2) := by
  rw [setLeaf_eq]
  split
  next missing => exact Or.inl ⟨_, by simp, rfl⟩
  next target found =>
    split
    next error refused => exact Or.inl ⟨_, by simp, rfl⟩
    next error accepted unread => exact Or.inl ⟨_, by simp, rfl⟩
    next leaf accepted read =>
      exact Or.inr ⟨target, leaf, _, found, accepted, read, rfl, rfl⟩

/-! ## The tree -/

/-- The tree that an operation leaves: the tree as it was, or an edit of it. -/
inductive Changes (session : Session) : Operation -> Tree -> Prop
  /-- The operation concerns the menu or the lock only, or is refused. -/
  | nothing (operation : Operation) : session.Changes operation session.root
  /-- A given subtree is spliced in. -/
  | replaced
      {id : NodeId}
      {subtree root : Tree}
      (spliced : session.root.splice? id subtree = some root) :
      session.Changes (.replace id subtree) root
  /-- The tree of a template from the open menu is spliced in. -/
  | selected
      {entry target : NodeId}
      {catalog : Catalog}
      {choice : MenuEntry}
      {template : Template}
      {root : Tree}
      (opened : session.openNode = some target)
      (shown : session.menu? = some catalog)
      (found : catalog.find? entry = some choice)
      (offered : choice.template = some template)
      (spliced : session.root.splice? target (template.run session.ids).1 = some root) :
      session.Changes (.select entry) root
  /-- An alternative gets another label. -/
  | labelled
      {id : NodeId}
      {label : String}
      {root : Tree}
      (relabelled : session.root.relabel? id label = some root) :
      session.Changes (.setLabel id label) root
  /-- The node of a leaf that was typed is spliced in. -/
  | typed
      {id : NodeId}
      {kind : LeafKind}
      {literal : String}
      {leaf : Leaf}
      {root : Tree}
      (read : Leaf.ofLiteral kind literal = .ok leaf)
      (spliced : session.root.splice? id (leaf.encode.run session.ids).1 = some root) :
      session.Changes (.setLeaf id kind literal) root

theorem Changes.of_eq
    {session : Session}
    {operation : Operation}
    {root : Tree}
    (same : root = session.root) :
    session.Changes operation root := by
  subst same
  exact .nothing operation

/-- Sessions that differ at most in the menu and the lock. -/
structure SameContent (session later : Session) : Prop where
  root : later.root = session.root
  catalogs : later.catalogs = session.catalogs
  ids : later.ids = session.ids

theorem sameContent_refl (session : Session) : session.SameContent session :=
  ⟨rfl, rfl, rfl⟩

theorem sameContent_closeMenu (session : Session) :
    session.SameContent session.closeMenu :=
  ⟨rfl, rfl, rfl⟩

theorem sameContent_setLocked
    (session : Session)
    (locked : Bool) :
    session.SameContent (session.setLocked locked) := by
  cases locked with
  | false => exact ⟨rfl, rfl, rfl⟩
  | true => exact ⟨rfl, rfl, rfl⟩

theorem sameContent_openMenu
    (session : Session)
    (id : NodeId) :
    session.SameContent (session.openMenu id) := by
  rcases session.openMenu_cases id with same | ⟨node, _, _, _, opened⟩
  · rw [same]
    exact session.sameContent_refl
  · rw [opened]
    exact ⟨rfl, rfl, rfl⟩

theorem sameContent_click
    (session : Session)
    (id : NodeId) :
    session.SameContent (session.click id) := by
  unfold click
  split
  · exact session.sameContent_closeMenu
  · exact session.sameContent_openMenu id

theorem sameContent_expand
    (session : Session)
    (path : List NodeId) :
    session.SameContent (session.expand path).1 := by
  rcases session.expand_cases path with refused | ⟨catalog, categories, _, _, expanded⟩
  · rw [refused]
    exact session.sameContent_refl
  · rw [expanded]
    exact ⟨rfl, rfl, rfl⟩

/-- A replacement leaves the spliced tree, or the tree as it was. -/
theorem root_replace
    (session : Session)
    (id : NodeId)
    (subtree : Tree) :
    (session.replace id subtree).1.root = session.root ∨
      session.root.splice? id subtree = some (session.replace id subtree).1.root := by
  rcases session.replace_cases id subtree with refused | ⟨root, spliced, took⟩
  · rw [refused]
    exact Or.inl rfl
  · rw [took]
    exact Or.inr spliced

/-- A selection splices in the tree of a template from the open menu. -/
theorem changes_select
    (session : Session)
    (entry : NodeId) :
    session.Changes (.select entry) (session.select entry).1.root := by
  rcases session.select_cases entry with
    refused | ⟨target, catalog, choice, template, opened, shown, found, offered, selected⟩
  · rw [refused]
    exact .nothing _
  · rw [selected]
    rcases root_replace { session with ids := (template.run session.ids).2 } target
      (template.run session.ids).1 with same | spliced
    · exact .of_eq same
    · exact .selected opened shown found offered spliced

/-- Typed input splices in the node of the leaf that was read. -/
theorem changes_setLeaf
    (session : Session)
    (id : NodeId)
    (kind : LeafKind)
    (literal : String) :
    session.Changes (.setLeaf id kind literal) (session.setLeaf id kind literal).1.root := by
  rcases session.setLeaf_cases id kind literal with
    ⟨answer, _, refused⟩ | ⟨target, leaf, _, _, _, read, rfl, typed⟩
  · rw [refused]
    exact .nothing _
  · rw [typed]
    rcases root_replace { session with ids := (leaf.encode.run session.ids).2 } id
      (leaf.encode.run session.ids).1 with same | spliced
    · exact .of_eq same
    · exact .typed read spliced

theorem changes_setLabel
    (session : Session)
    (id : NodeId)
    (label : String) :
    session.Changes (.setLabel id label) (session.setLabel id label).1.root := by
  rcases session.setLabel_cases id label with refused | ⟨root, _, relabelled, took⟩
  · rw [refused]
    exact .nothing _
  · rw [took]
    exact .labelled relabelled

theorem perform_setLeaf
    (session : Session)
    (id : NodeId)
    (kind : LeafKind)
    (literal : String) :
    (session.perform (.setLeaf id kind literal)).1 = (session.setLeaf id kind literal).1 := by
  simp only [perform]
  split
  next changed took answer => rw [answer]
  next kept error answer => rw [answer]

/-- What any operation does to the tree. -/
theorem changes_perform
    (session : Session)
    (operation : Operation) :
    session.Changes operation (session.perform operation).1.root := by
  cases operation with
  | openMenu id => exact .of_eq (session.sameContent_openMenu id).root
  | closeMenu => exact .of_eq session.sameContent_closeMenu.root
  | click id => exact .of_eq (session.sameContent_click id).root
  | setLocked locked => exact .of_eq (session.sameContent_setLocked locked).root
  | hover depth entry => exact .of_eq (session.sameContent_expand _).root
  | expand path => exact .of_eq (session.sameContent_expand path).root
  | select entry => exact session.changes_select entry
  | replace id subtree =>
      rcases session.root_replace id subtree with same | spliced
      · exact .of_eq same
      · exact .replaced spliced
  | setLabel id label => exact session.changes_setLabel id label
  | setLeaf id kind literal =>
      rw [perform_setLeaf]
      exact session.changes_setLeaf id kind literal

/-- Whatever an operation does to the tree is an edit, if it is anything. -/
theorem eq_or_editsTo_perform
    (session : Session)
    (operation : Operation) :
    (session.perform operation).1.root = session.root ∨
      session.root.EditsTo (session.perform operation).1.root := by
  have changes := session.changes_perform operation
  generalize (session.perform operation).1.root = root at changes ⊢
  cases changes with
  | nothing => exact Or.inl rfl
  | replaced spliced => exact Or.inr (.splice spliced)
  | selected opened shown found offered spliced => exact Or.inr (.splice spliced)
  | labelled relabelled => exact Or.inr (.relabel relabelled)
  | typed read spliced => exact Or.inr (.splice spliced)

/-- Operations one after the other are one run. -/
theorem performAll_append
    (session : Session)
    (first second : List Operation) :
    session.performAll (first ++ second) = (session.performAll first).performAll second :=
  List.foldl_append

/-- A property of trees that every edit keeps is kept by every run of operations. -/
theorem performAll_keeps
    {property : Tree -> Prop}
    (keeps : ∀ {root changed : Tree}, property root -> root.EditsTo changed -> property changed)
    {session : Session}
    (start : property session.root)
    (operations : List Operation) :
    property (session.performAll operations).root := by
  induction operations generalizing session with
  | nil => exact start
  | cons operation rest restHypothesis =>
      apply restHypothesis
      rcases session.eq_or_editsTo_perform operation with same | edited
      · rw [same]
        exact start
      · exact keeps start edited

/-! ## The catalogs -/

theorem catalogs_replace
    (session : Session)
    (id : NodeId)
    (subtree : Tree) :
    (session.replace id subtree).1.catalogs = session.catalogs := by
  rcases session.replace_cases id subtree with refused | ⟨root, _, took⟩
  · rw [refused]
  · rw [took]

theorem catalogs_setLeaf
    (session : Session)
    (id : NodeId)
    (kind : LeafKind)
    (literal : String) :
    (session.setLeaf id kind literal).1.catalogs = session.catalogs := by
  rcases session.setLeaf_cases id kind literal with
    ⟨answer, _, refused⟩ | ⟨target, leaf, _, _, _, _, rfl, typed⟩
  · rw [refused]
  · rw [typed]
    exact catalogs_replace _ id _

/-- No operation touches the catalogs. -/
theorem catalogs_perform
    (session : Session)
    (operation : Operation) :
    (session.perform operation).1.catalogs = session.catalogs := by
  cases operation with
  | openMenu id => exact (session.sameContent_openMenu id).catalogs
  | closeMenu => exact session.sameContent_closeMenu.catalogs
  | click id => exact (session.sameContent_click id).catalogs
  | setLocked locked => exact (session.sameContent_setLocked locked).catalogs
  | hover depth entry => exact (session.sameContent_expand _).catalogs
  | expand path => exact (session.sameContent_expand path).catalogs
  | select entry =>
      rw [perform]
      rcases session.select_cases entry with refused | ⟨target, _, _, _, _, _, _, _, selected⟩
      · rw [refused]
      · rw [selected]
        exact catalogs_replace _ _ _
  | replace id subtree => exact session.catalogs_replace id subtree
  | setLabel id label =>
      rw [perform]
      rcases session.setLabel_cases id label with refused | ⟨root, _, _, took⟩
      · rw [refused]
      · rw [took]
  | setLeaf id kind literal =>
      rw [perform_setLeaf]
      exact session.catalogs_setLeaf id kind literal

end Session
end ContingentClaims
