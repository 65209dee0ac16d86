import ContingentClaims.Command.Run
import ContingentClaims.Proofs.Tree.Links

/-!
# Going through a tree

The outline of a tree has a line for each node that a walk visits, in the same order, indented
by the depth of the node; what is drawn of the tree has the same nodes in this order. With the
walk, the searches, the edges and the search for a parent all that goes through a tree agrees
on one sequence of nodes (`traversals_agree`).
-/

namespace ContingentClaims

/-! ## Depths -/

namespace Tree

mutual

/-- The nodes of a tree in pre-order, each with its depth, if the root has a given one. -/
def levels
    (depth : Nat) : Tree -> List (Nat × Tree)
  | ⟨id, tag, type, children, text, value⟩ =>
      (depth, ⟨id, tag, type, children, text, value⟩) :: levelsAll (depth + 1) children
termination_by structural tree => tree

/-- The nodes of several trees of one depth, one tree after the other. -/
def levelsAll
    (depth : Nat) : List Tree -> List (Nat × Tree)
  | [] => []
  | tree :: rest => tree.levels depth ++ levelsAll depth rest
termination_by structural trees => trees

end

theorem levels_eq
    (depth : Nat)
    (tree : Tree) :
    tree.levels depth = (depth, tree) :: tree.children.flatMap (levels (depth + 1)) := by
  have listed (trees : List Tree) :
      levelsAll (depth + 1) trees = trees.flatMap (levels (depth + 1)) := by
    induction trees with
    | nil => rfl
    | cons first rest restHypothesis => rw [levelsAll, restHypothesis, List.flatMap_cons]
  cases tree
  rw [levels, listed]

/-- Without the depths these are the nodes of the walk. -/
theorem map_snd_levels
    (depth : Nat)
    (tree : Tree) :
    (tree.levels depth).map (·.2) = tree.walk := by
  induction tree using childInduction generalizing depth with
  | step tree childHypothesis =>
      rw [levels_eq, walk_eq, List.map_cons, List.map_flatMap]
      congr 1
      exact List.flatMap_congr fun child isChild => childHypothesis child isChild (depth + 1)

end Tree

/-! ## Lines -/

namespace Command

/-- The line of a node in an outline. -/
def outlineLine
    (depth : Nat)
    (node : Tree) : String :=
  String.ofList (List.replicate (2 * depth) ' ') ++ node.label ++
    (if node.isPlaceholder then "?" else "") ++
    s!"  ({node.type.name} {node.id})"

theorem outline_eq
    (depth : Nat)
    (tree : Tree) :
    outline depth tree =
      outlineLine depth tree :: tree.children.flatMap (outline (depth + 1)) := by
  have listed (trees : List Tree) :
      outlineAll (depth + 1) trees = trees.flatMap (outline (depth + 1)) := by
    induction trees with
    | nil => rfl
    | cons first rest restHypothesis => rw [outlineAll, restHypothesis, List.flatMap_cons]
  cases tree
  rw [outline, listed]
  rfl

/-- An outline has a line for each node, at its depth. -/
theorem outline_eq_map_levels
    (depth : Nat)
    (tree : Tree) :
    outline depth tree =
      (tree.levels depth).map fun entry => outlineLine entry.1 entry.2 := by
  induction tree using Tree.childInduction generalizing depth with
  | step tree childHypothesis =>
      rw [outline_eq, Tree.levels_eq, List.map_cons, List.map_flatMap]
      congr 1
      exact List.flatMap_congr fun child isChild => childHypothesis child isChild (depth + 1)

/-- The command prints the outline of the tree that it reads, or what is drawn of it. -/
theorem present_eq
    {environment : Environment}
    {file : String}
    {value : Json}
    {tree : Tree}
    (document : environment.readJson file = .ok value)
    (loaded : loadTree value = .ok tree) :
    present environment .text file = .ok (.ofLines (outline 0 tree)) ∧
      present environment .json file = .ok (.ofJson (renderModel tree)) := by
  simp only [present, document, loaded, bind, Except.bind]
  exact ⟨rfl, rfl⟩

/-- The nodes that are drawn are those of the walk. -/
theorem nodes_renderModel (tree : Tree) :
    (renderModel tree).field? "nodes" = some (.array (tree.walk.map nodeModel)) := rfl

end Command

/-! ## All traversals -/

namespace Tree

/-- All that goes through a tree goes through the nodes of its walk in their order. -/
structure TraversalsAgree (tree : Tree) : Prop where
  /-- With the tree alone on the stack a walk comes to an end, and these nodes are visited. -/
  visits : ∀ nodes, Visits [tree] nodes ↔ nodes = tree.walk
  /-- The root comes first, and then the walks of the children in order. -/
  walk : tree.walk = tree :: tree.children.flatMap Tree.walk
  find : ∀ id, tree.find? id = tree.walk.find? fun node => node.id == id
  /-- A change is made where the first node with the identifier stands, and nowhere else. -/
  update :
    ∀ id node, (tree.walk.find? fun node => node.id == id) = some node ->
      ∀ change, ∃ before context, tree.VisitedAfter before context node ∧
        node.id = id ∧ (∀ other ∈ before, other.id ≠ id) ∧
        tree.update? id change = some (context.plug (change node))
  no_update :
    ∀ id, (tree.walk.find? fun node => node.id == id) = none ->
      ∀ change, tree.update? id change = none
  edges_counted : tree.edges.length + 1 = tree.count
  /-- Behind the edges of the nodes visited before a node come those to its children. -/
  edges_listed :
    ∀ before parent behind, tree.walk = before ++ parent :: behind ->
      ∀ position child, parent.children[position]? = some child ->
        tree.edges[(before.flatMap (·.children)).length + position]? =
          some ⟨parent.id, child.id, position⟩
  /-- The nodes behind the root are the children of the links, and there is one edge for each
  of them. -/
  links_visited : tree.walk = tree :: tree.links.map (·.child)
  links_placed :
    ∀ link ∈ tree.links,
      link.parent ∈ tree.walk ∧ link.parent.children[link.position]? = some link.child
  edges_once : tree.edges.Perm (tree.links.map Link.edge)
  /-- A parent is that of the first node behind the root with the identifier. -/
  parents :
    ∀ id, tree.parentOf? id =
      (tree.links.find? fun link => link.child.id == id).map fun link =>
        (link.parent, link.position)
  /-- The lines of the outline and the nodes that are drawn are those of one list, and this is
  the walk. -/
  levels_visited : tree.walk = (tree.levels 0).map (·.2)
  outlined :
    Command.outline 0 tree =
      (tree.levels 0).map fun entry => Command.outlineLine entry.1 entry.2
  drawn :
    (Command.renderModel tree).field? "nodes" =
      some (.array ((tree.levels 0).map fun entry =>
        .object [("id", .string entry.2.id), ("label", .string entry.2.label),
          ("placeholder", .bool entry.2.isPlaceholder), ("type", .string entry.2.type.name)]))
  /-- Both are printed for a document of the tree. -/
  presented :
    ∀ environment file value,
      environment.readJson file = .ok value -> Command.loadTree value = .ok tree ->
        Command.present environment .text file = .ok (.ofLines (Command.outline 0 tree)) ∧
          Command.present environment .json file = .ok (.ofJson (Command.renderModel tree))

/-- The parents that are found are those that the edges lead from. -/
structure ParentsAreEdges (tree : Tree) : Prop where
  some_iff :
    ∀ id parent position, tree.parentOf? id = some (parent, position) ↔
      parent ∈ tree.walk ∧ ⟨parent.id, id, position⟩ ∈ tree.edges
  /-- Only the root has none, and what is no node of the tree. -/
  none_iff : ∀ id, tree.parentOf? id = none ↔ id = tree.id ∨ id ∉ tree.ids

/-- Whatever the identifiers of a tree are, everything goes through it in one order; with
distinct ones parents and edges say the same. -/
theorem traversals_agree (tree : Tree) :
    tree.TraversalsAgree ∧ (tree.ids.Nodup -> tree.ParentsAreEdges) := by
  constructor
  · exact {
      visits := visits_iff tree
      walk := walk_eq tree
      find := find?_eq_find?_walk tree
      update := fun _ _ found => exists_visit_of_update? found
      no_update := fun _ missing => update?_eq_none_of_find? missing
      edges_counted := length_edges tree
      edges_listed := fun _ _ _ visited _ _ here => getElem?_edges visited here
      links_visited := (cons_map_child_links tree).symm
      links_placed := fun _ present => getElem?_children_of_mem_links present
      edges_once := edges_perm_links tree
      parents := parentOf?_eq_find?_links tree
      levels_visited := (map_snd_levels 0 tree).symm
      outlined := Command.outline_eq_map_levels 0 tree
      drawn := by
        rw [Command.nodes_renderModel, ← map_snd_levels 0 tree, List.map_map]
        rfl
      presented := fun _ _ _ document loaded => Command.present_eq document loaded }
  · intro distinct
    exact {
      some_iff := fun _ _ _ => parentOf?_eq_some_iff_mem_edges distinct
      none_iff := parentOf?_eq_none_iff_of_distinct distinct }

/-- A conjunction of a claim with a node below it and one without. -/
theorem traversals_agree_nested :
    let tree : Tree :=
      .claim "a" .and [.claim "b" .give [.claim "c" .zero []], .claim "d" .zero []]
    tree.ids.Nodup ∧ tree.ParentsAreEdges := by
  intro tree
  have distinct : tree.ids.Nodup := by
    rw [ids_eq_map]
    decide
  exact ⟨distinct, (traversals_agree tree).2 distinct⟩

end Tree
end ContingentClaims
