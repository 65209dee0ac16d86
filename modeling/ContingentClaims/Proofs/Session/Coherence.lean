import ContingentClaims.Proofs.Session.ReadOnly
import ContingentClaims.Proofs.Session.Types

/-!
# The menu of a session

The open menu, the expanded categories and the lock of a session fit together and fit the
tree, whatever tree the session starts with and whatever is done to it: a menu is open
only in an unlocked session, on a node of the tree that has a catalog, and the expanded
categories are a path through this catalog.
-/

namespace ContingentClaims

/-! ## Types of nodes when a label changes -/

namespace Context

/-- Nodes that are found with the same types in two trees are found with the same types
in the trees around them. -/
theorem type_find?_plug
    {context : Context}
    {left right : Tree}
    (same : ∀ target, (left.find? target).map (·.type) = (right.find? target).map (·.type))
    (target : NodeId) :
    ((context.plug left).find? target).map (·.type) =
      ((context.plug right).find? target).map (·.type) := by
  induction context generalizing left right with
  | nil => exact same target
  | cons frame outer outerHypothesis =>
      apply outerHypothesis
      intro target
      rw [Tree.find?_eq target (frame.fill left), Tree.find?_eq target (frame.fill right),
        Frame.id_fill, Frame.id_fill]
      split
      next here => rfl
      next elsewhere =>
        simp only [Frame.children_fill, Tree.findIn?_append, Tree.findIn?_cons,
          Option.map_or, same target]

end Context

namespace Tree

/-- No node changes its type when a label is put on a node. -/
theorem type_find?_relabel
    {root changed : Tree}
    {id : NodeId}
    {label : String}
    (relabelled : root.relabel? id label = some changed)
    (target : NodeId) :
    (changed.find? target).map (·.type) = (root.find? target).map (·.type) := by
  obtain ⟨context, node, rfl, _, _, rfl⟩ := exists_place_of_relabel? relabelled
  apply Context.type_find?_plug
  intro target
  rw [find?_eq target (node.withText label), find?_eq target node]
  have sameId : (node.withText label).id = node.id := rfl
  have sameChildren : (node.withText label).children = node.children := rfl
  rw [sameId, sameChildren]
  split <;> rfl

end Tree

/-! ## Coherence -/

namespace Catalogs

/-- All nodes but value nodes have a catalog. -/
theorem exists_forType?_iff
    (catalogs : Catalogs)
    (type : NodeType) :
    (∃ catalog, catalogs.forType? type = some catalog) ↔ type ≠ .value := by
  cases type <;> simp [forType?]

end Catalogs

namespace Session

/-- The open menu, the expanded categories and the lock fit together and fit the tree. -/
structure IsCoherent (session : Session) : Prop where
  /-- A locked session has no open menu. -/
  closed_of_locked : session.locked = true -> session.openNode = none
  /-- Nothing is expanded without an open menu. -/
  path_of_closed : session.openNode = none -> session.path = []
  /-- The open menu is that of a node of the tree, and the expanded categories lead through
  the catalog for its type. -/
  menu_of_open :
    ∀ id, session.openNode = some id ->
      ∃ node catalog, session.root.find? id = some node ∧
        session.catalogs.forType? node.type = some catalog ∧
        (catalog.resolvePath? session.path).isSome = true

variable {session : Session}

theorem menu?_of_find?
    {id : NodeId}
    {node : Tree}
    (opened : session.openNode = some id)
    (found : session.root.find? id = some node) :
    session.menu? = session.catalogs.forType? node.type := by
  simp [menu?, opened, found]

/-- The columns of a menu are those along the path. -/
theorem menuColumns_eq
    {catalog : Catalog}
    (shown : session.menu? = some catalog) :
    session.menuColumns = Catalog.columnsFrom catalog.entries session.path := by
  rw [menuColumns, shown]
  rfl

/-- A menu that shows is that of a node of the tree. -/
theorem exists_node_of_menu?
    {catalog : Catalog}
    (shown : session.menu? = some catalog) :
    ∃ id node, session.openNode = some id ∧ session.root.find? id = some node ∧
      session.catalogs.forType? node.type = some catalog := by
  obtain ⟨id, opened, shown⟩ := Option.bind_eq_some_iff.1 shown
  obtain ⟨node, found, shown⟩ := Option.bind_eq_some_iff.1 shown
  exact ⟨id, node, opened, found, shown⟩

/-- Without an open menu nothing can be wrong. -/
theorem isCoherent_of_closed
    (closed : session.openNode = none)
    (unexpanded : session.path = []) :
    session.IsCoherent := by
  refine ⟨fun _ => closed, fun _ => unexpanded, ?_⟩
  intro id opened
  rw [closed] at opened
  cases opened

theorem isCoherent_closeMenu (session : Session) : session.closeMenu.IsCoherent :=
  isCoherent_of_closed rfl rfl

theorem IsCoherent.unlocked_of_open
    (coherent : session.IsCoherent)
    {id : NodeId}
    (opened : session.openNode = some id) :
    session.locked = false := by
  rw [Bool.eq_false_iff]
  intro locked
  rw [coherent.closed_of_locked locked] at opened
  cases opened

/-! ## Steps -/

theorem IsCoherent.openMenu
    (coherent : session.IsCoherent)
    (id : NodeId) :
    (session.openMenu id).IsCoherent := by
  rcases session.openMenu_cases id with same | ⟨node, unlocked, found, operator, opened⟩
  · rw [same]
    exact coherent
  · rw [opened]
    refine ⟨?_, ?_, ?_⟩
    · intro locked
      rw [unlocked] at locked
      cases locked
    · intro closed
      cases closed
    · intro other isOpen
      obtain rfl := Option.some.inj isOpen
      obtain ⟨catalog, shown⟩ := (session.catalogs.exists_forType?_iff node.type).2 operator
      exact ⟨node, catalog, found, shown, rfl⟩

theorem IsCoherent.click
    (coherent : session.IsCoherent)
    (id : NodeId) :
    (session.click id).IsCoherent := by
  unfold Session.click
  split
  · exact session.isCoherent_closeMenu
  · exact coherent.openMenu id

theorem IsCoherent.setLocked
    (coherent : session.IsCoherent)
    (locked : Bool) :
    (session.setLocked locked).IsCoherent := by
  cases locked with
  | true => exact isCoherent_of_closed rfl rfl
  | false =>
      refine ⟨?_, coherent.path_of_closed, coherent.menu_of_open⟩
      intro locked
      cases locked

theorem IsCoherent.expand
    (coherent : session.IsCoherent)
    (path : List NodeId) :
    (session.expand path).1.IsCoherent := by
  rcases session.expand_cases path with
    refused | ⟨catalog, categories, shown, resolved, expanded⟩
  · rw [refused]
    exact coherent
  · obtain ⟨id, node, opened, found, typed⟩ := exists_node_of_menu? shown
    rw [expanded]
    refine ⟨coherent.closed_of_locked, ?_, ?_⟩
    · intro closed
      rw [opened] at closed
      cases closed
    · intro other same
      rw [opened] at same
      obtain rfl := Option.some.inj same
      exact ⟨node, catalog, found, typed, by rw [resolved]; rfl⟩

/-- A replacement closes the menu or is refused. -/
theorem IsCoherent.replace
    (coherent : session.IsCoherent)
    (id : NodeId)
    (subtree : Tree) :
    (session.replace id subtree).1.IsCoherent := by
  rcases session.replace_cases id subtree with refused | ⟨root, _, took⟩
  · rw [refused]
    exact coherent
  · rw [took]
    exact isCoherent_of_closed rfl rfl

/-- The source of identifiers does not matter. -/
theorem IsCoherent.withIds
    (coherent : session.IsCoherent)
    (ids : IdSource) :
    IsCoherent { session with ids } :=
  ⟨coherent.closed_of_locked, coherent.path_of_closed, coherent.menu_of_open⟩

theorem IsCoherent.select
    (coherent : session.IsCoherent)
    (entry : NodeId) :
    (session.select entry).1.IsCoherent := by
  rcases session.select_cases entry with refused | ⟨target, _, _, _, _, _, _, _, selected⟩
  · rw [refused]
    exact coherent
  · rw [selected]
    exact (coherent.withIds _).replace target _

/-- A label changes nothing about the node of the open menu. -/
theorem IsCoherent.relabel
    (coherent : session.IsCoherent)
    {id : NodeId}
    {label : String}
    {root : Tree}
    (relabelled : session.root.relabel? id label = some root) :
    IsCoherent { session with root } := by
  refine ⟨coherent.closed_of_locked, coherent.path_of_closed, ?_⟩
  intro target opened
  obtain ⟨node, catalog, found, shown, resolved⟩ := coherent.menu_of_open target opened
  have sameType := Tree.type_find?_relabel relabelled target
  rw [found, Option.map_some] at sameType
  obtain ⟨changed, isThere, typed⟩ := Option.map_eq_some_iff.1 sameType
  exact ⟨changed, catalog, isThere, typed ▸ shown, resolved⟩

theorem IsCoherent.setLabel
    (coherent : session.IsCoherent)
    (id : NodeId)
    (label : String) :
    (session.setLabel id label).1.IsCoherent := by
  rcases session.setLabel_cases id label with refused | ⟨root, _, relabelled, took⟩
  · rw [refused]
    exact coherent
  · rw [took]
    exact coherent.relabel relabelled

theorem IsCoherent.setLeaf
    (coherent : session.IsCoherent)
    (id : NodeId)
    (kind : LeafKind)
    (literal : String) :
    (session.setLeaf id kind literal).1.IsCoherent := by
  rcases session.setLeaf_cases id kind literal with
    ⟨answer, _, refused⟩ | ⟨target, leaf, _, _, _, _, rfl, typed⟩
  · rw [refused]
    exact coherent
  · rw [typed]
    exact (coherent.withIds _).replace id _

/-- Every operation keeps a session coherent. -/
theorem IsCoherent.perform
    (coherent : session.IsCoherent)
    (operation : Operation) :
    (session.perform operation).1.IsCoherent := by
  cases operation with
  | openMenu id => exact coherent.openMenu id
  | closeMenu => exact session.isCoherent_closeMenu
  | click id => exact coherent.click id
  | setLocked locked => exact coherent.setLocked locked
  | hover depth entry => exact coherent.expand _
  | expand path => exact coherent.expand path
  | select entry => exact coherent.select entry
  | replace id subtree => exact coherent.replace id subtree
  | setLabel id label => exact coherent.setLabel id label
  | setLeaf id kind literal =>
      rw [perform_setLeaf]
      exact coherent.setLeaf id kind literal

/-! ## Runs -/

theorem IsCoherent.performAll
    (coherent : session.IsCoherent)
    (operations : List Operation) :
    (session.performAll operations).IsCoherent := by
  induction operations generalizing session with
  | nil => exact coherent
  | cons operation rest restHypothesis => exact restHypothesis (coherent.perform operation)

/-- Every session that comes about is coherent. -/
theorem IsReachable.isCoherent
    (reachable : session.IsReachable) :
    session.IsCoherent := by
  obtain ⟨root, catalogs, ids, operations, rfl⟩ := reachable
  exact (isCoherent_of_closed rfl rfl).performAll operations

end Session
end ContingentClaims
