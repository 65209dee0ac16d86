import ContingentClaims.Proofs.Menu.Navigation
import ContingentClaims.Proofs.Session.Coherence

/-!
# What a session shows

Without an open menu a session shows no columns and has nothing expanded. The open menu is
that of a node of the tree: it shows the catalog for the type of the node and one column for
every category that is expanded in it, step by step along the path
(`displays_performAll`).
-/

namespace ContingentClaims

namespace Catalog

/-- Categories along a path of identifiers. Each one is listed in the column before, and the
next column is the one below it. -/
inductive LeadsThrough : List MenuEntry -> List NodeId -> List MenuEntry -> Prop
  | arrived (column : List MenuEntry) : LeadsThrough column [] []
  | step
      {column categories : List MenuEntry}
      {category : MenuEntry}
      {path : List NodeId}
      (listed : category ∈ column)
      (isCategory : category.isCategory = true)
      (below : LeadsThrough category.children path categories) :
      LeadsThrough column (category.id :: path) (category :: categories)

/-- A path that resolves leads through the categories that it resolves to. -/
theorem leadsThrough_of_resolveFrom?
    {column categories : List MenuEntry}
    {path : List NodeId}
    (resolved : resolveFrom? column path = some categories) :
    LeadsThrough column path categories := by
  induction path generalizing column categories with
  | nil =>
      obtain rfl := Option.some.inj resolved
      exact .arrived column
  | cons id rest restHypothesis =>
      obtain ⟨category, others, isIn, isCategory, below, rfl⟩ :=
        (resolveFrom?_cons_eq_some_iff _ _ _ _).1 resolved
      have named : category.id = id := by simpa using List.find?_some isIn
      subst named
      exact .step (List.mem_of_find?_eq_some isIn) isCategory (restHypothesis below)

end Catalog

namespace Session

variable {session : Session}

/-- The open menu is that of a node, with some categories expanded in it. -/
structure DisplaysFor
    (session : Session)
    (node : Tree)
    (catalog : Catalog)
    (categories : List MenuEntry) : Prop where
  /-- The node is the first one of the tree with its identifier. -/
  found : session.root.find? node.id = some node
  present : node ∈ session.root.walk
  operator : node.type ≠ .value
  /-- The menu is the catalog for the type of the node. -/
  menu : session.menu? = some catalog
  typed : session.catalogs.forType? node.type = some catalog
  /-- The path leads through the categories, one step for each of them. -/
  resolved : catalog.resolvePath? session.path = some categories
  stepwise : Catalog.LeadsThrough catalog.entries session.path categories
  /-- Behind the top level there is a column for each of the categories. -/
  columns : session.menuColumns = catalog.entries :: categories.map (·.children)
  counted : session.menuColumns.length = session.path.length + 1

/-- What a session shows goes with its lock, its open node and its path. -/
structure Displays (session : Session) : Prop where
  /-- A locked session has no open menu. -/
  closed_of_locked : session.locked = true -> session.openNode = none
  /-- Without an open menu nothing is expanded and no column is shown. -/
  nothing_of_closed :
    session.openNode = none ->
      session.path = [] ∧ session.menu? = none ∧ session.menuColumns = []
  /-- The open menu is that of a node of the tree. -/
  node_of_open :
    ∀ id, session.openNode = some id ->
      ∃ node catalog categories,
        node.id = id ∧ session.DisplaysFor node catalog categories

/-- A coherent session shows the menu of its open node. -/
theorem IsCoherent.displaysFor
    (coherent : session.IsCoherent)
    {id : NodeId}
    (opened : session.openNode = some id) :
    ∃ node catalog categories,
      node.id = id ∧ session.DisplaysFor node catalog categories := by
  obtain ⟨node, catalog, found, typed, resolves⟩ := coherent.menu_of_open id opened
  obtain ⟨categories, resolved⟩ := Option.isSome_iff_exists.1 resolves
  obtain ⟨_, _, named, _⟩ := Tree.exists_context_of_find? found
  subst named
  have menu : session.menu? = some catalog := by
    rw [menu?_of_find? opened found, typed]
  have columns : session.menuColumns = catalog.entries :: categories.map (·.children) := by
    rw [menuColumns_eq menu]
    exact Catalog.columnsFrom_of_resolveFrom? resolved
  refine ⟨node, catalog, categories, rfl, ?_⟩
  exact {
    found
    present := by
      rw [Tree.walk_eq_preorder]
      exact Tree.mem_preorder_of_find? found
    operator := (session.catalogs.exists_forType?_iff _).1 ⟨catalog, typed⟩
    menu
    typed
    resolved
    stepwise := Catalog.leadsThrough_of_resolveFrom? resolved
    columns
    counted := by
      rw [columns, List.length_cons, List.length_map, Catalog.length_of_resolveFrom? resolved] }

theorem IsCoherent.displays (coherent : session.IsCoherent) : session.Displays where
  closed_of_locked := coherent.closed_of_locked
  nothing_of_closed closed := by
    have noMenu : session.menu? = none := by simp [menu?, closed]
    refine ⟨coherent.path_of_closed closed, noMenu, ?_⟩
    rw [menuColumns, noMenu]
  node_of_open _ opened := coherent.displaysFor opened

/-- Whatever tree a session starts with and whatever is done in it, it shows a menu exactly
if one is open, and this is the one of a node of the tree. -/
theorem displays_performAll
    (root : Tree)
    (catalogs : Catalogs)
    (ids : IdSource)
    (operations : List Operation) :
    (({ root, catalogs, ids } : Session).performAll operations).Displays := by
  have reachable : (({ root, catalogs, ids } : Session).performAll operations).IsReachable :=
    ⟨root, catalogs, ids, operations, rfl⟩
  exact reachable.isCoherent.displays

end Session
end ContingentClaims
