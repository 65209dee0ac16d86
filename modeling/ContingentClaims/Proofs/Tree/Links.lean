import ContingentClaims.Proofs.Tree.Places
import ContingentClaims.Proofs.Tree.Visits
import Mathlib.Data.List.Perm.Basic

/-!
# Links between nodes

Every node below the root is the child of one node at one position. The *links* of a tree list
these children in the order in which they are visited. The edges are the links in another
order, all those from one parent together (`edges_perm_links`, `getElem?_edges`), and the
search for a parent ends at the first link whose child has the identifier
(`parentOf?_eq_find?_links`).
-/

namespace ContingentClaims
namespace Tree

/-- A node below the root, with its parent and its position among the children there. -/
structure Link where
  parent : Tree
  position : Nat
  child : Tree

/-- The edge of a link. -/
def Link.edge (link : Link) : Edge where
  source := link.parent.id
  target := link.child.id
  position := link.position

mutual

/-- The links of a tree, children in pre-order. -/
def links : Tree -> List Link
  | ⟨id, tag, type, children, text, value⟩ =>
      linksFrom ⟨id, tag, type, children, text, value⟩ 0 children
termination_by structural tree => tree

/-- The links from a node to its children from a position on, and those below these. -/
def linksFrom
    (parent : Tree)
    (position : Nat) : List Tree -> List Link
  | [] => []
  | child :: rest =>
      ⟨parent, position, child⟩ :: (child.links ++ linksFrom parent (position + 1) rest)
termination_by structural children => children

end

theorem links_eq_linksFrom (tree : Tree) : tree.links = linksFrom tree 0 tree.children := by
  cases tree
  rfl

theorem linksFrom_cons
    (parent child : Tree)
    (position : Nat)
    (rest : List Tree) :
    linksFrom parent position (child :: rest) =
      ⟨parent, position, child⟩ :: (child.links ++ linksFrom parent (position + 1) rest) := rfl

theorem linksFrom_eq
    (parent : Tree)
    (position : Nat)
    (children : List Tree) :
    linksFrom parent position children =
      (children.zipIdx position).flatMap fun entry =>
        ⟨parent, entry.2, entry.1⟩ :: entry.1.links := by
  induction children generalizing position with
  | nil => rfl
  | cons child rest restHypothesis =>
      rw [linksFrom_cons, restHypothesis, List.zipIdx_cons, List.flatMap_cons, List.cons_append]

/-- For each child in turn there is the link to it, and then there are those below it. -/
theorem links_eq (tree : Tree) :
    tree.links =
      tree.children.zipIdx.flatMap fun entry =>
        ⟨tree, entry.2, entry.1⟩ :: entry.1.links := by
  rw [links_eq_linksFrom, linksFrom_eq]

/-! ## Children -/

theorem flatMap_zipIdx
    {α : Type}
    (trees : List Tree)
    (listed : Tree -> List α) :
    (trees.zipIdx.flatMap fun entry => listed entry.1) = trees.flatMap listed := by
  rw [← List.flatMap_map, List.zipIdx_map_fst]

/-- Behind the root the children of the links are visited. -/
theorem cons_map_child_links (tree : Tree) :
    tree :: tree.links.map (·.child) = tree.walk := by
  induction tree using childInduction with
  | step tree childHypothesis =>
      rw [walk_eq, ← flatMap_zipIdx, links_eq, List.map_flatMap]
      congr 1
      apply List.flatMap_congr
      rintro ⟨child, position⟩ present
      exact childHypothesis child (List.fst_mem_of_mem_zipIdx present)

/-- A link goes from a node of the tree to its child at the position. -/
theorem getElem?_children_of_mem_links
    {tree : Tree}
    {link : Link}
    (present : link ∈ tree.links) :
    link.parent ∈ tree.walk ∧ link.parent.children[link.position]? = some link.child := by
  induction tree using childInduction with
  | step tree childHypothesis =>
      rw [links_eq, List.mem_flatMap] at present
      obtain ⟨⟨child, position⟩, isIn, here⟩ := present
      rw [walk_eq, List.mem_cons, List.mem_flatMap]
      rcases List.mem_cons.1 here with rfl | below
      · exact ⟨Or.inl rfl, List.mem_zipIdx_iff_getElem?.1 isIn⟩
      · have isChild := List.fst_mem_of_mem_zipIdx isIn
        obtain ⟨isNode, atPosition⟩ := childHypothesis child isChild below
        exact ⟨Or.inr ⟨child, isChild, isNode⟩, atPosition⟩

/-! ## Edges -/

theorem edges_eq (tree : Tree) :
    tree.edges = tree.childEdges ++ tree.children.flatMap edges := by
  rw [edges, walk_eq, List.flatMap_cons, List.flatMap_assoc]
  rfl

/-- The edges are those of the links: one for each node below the root. -/
theorem edges_perm_links (tree : Tree) : tree.edges.Perm (tree.links.map Link.edge) := by
  induction tree using childInduction with
  | step tree childHypothesis =>
      rw [edges_eq, childEdges, List.mapIdx_eq_zipIdx_map, ← flatMap_zipIdx, links_eq,
        List.map_flatMap, List.map_eq_flatMap]
      refine (List.flatMap_append_perm ..).trans (List.Perm.flatMap_left _ ?_)
      rintro ⟨child, position⟩ present
      exact .cons _ (childHypothesis child (List.fst_mem_of_mem_zipIdx present))

theorem length_edges (tree : Tree) : tree.edges.length + 1 = tree.count := by
  rw [tree.edges_perm_links.length_eq, count, ← cons_map_child_links, List.length_map,
    List.length_cons, List.length_map]

@[simp] theorem length_childEdges (tree : Tree) :
    tree.childEdges.length = tree.children.length :=
  List.length_mapIdx

/-- The edges to the children of a node come behind those to the children of all nodes visited
before it. -/
theorem getElem?_edges
    {tree parent child : Tree}
    {before behind : List Tree}
    {position : Nat}
    (visited : tree.walk = before ++ parent :: behind)
    (here : parent.children[position]? = some child) :
    tree.edges[(before.flatMap (·.children)).length + position]? =
      some ⟨parent.id, child.id, position⟩ := by
  have skipped : (before.flatMap (·.children)).length = (before.flatMap childEdges).length := by
    simp [List.length_flatMap]
  have inside : position < parent.childEdges.length := by
    rw [length_childEdges]
    exact (List.getElem?_eq_some_iff.1 here).1
  rw [edges, visited, List.flatMap_append, List.flatMap_cons, skipped,
    List.getElem?_append_right (Nat.le_add_right ..), Nat.add_sub_cancel_left,
    List.getElem?_append_left inside, childEdges, List.getElem?_mapIdx, here, Option.map_some]

/-- An edge goes from a node of the tree to the identifier of its child at the position. -/
theorem mem_edges_iff
    {tree : Tree}
    {source target : NodeId}
    {position : Nat} :
    ⟨source, target, position⟩ ∈ tree.edges ↔
      ∃ parent, parent.id = source ∧ tree.HasChild parent position target := by
  rw [edges, List.mem_flatMap]
  constructor
  · rintro ⟨parent, visited, isEdge⟩
    obtain ⟨_, inside, equal⟩ := List.mem_mapIdx.1 isEdge
    obtain ⟨rfl, rfl, rfl⟩ := Edge.mk.inj equal
    exact ⟨parent, rfl, visited, by rw [List.getElem?_eq_getElem inside, Option.map_some]⟩
  · rintro ⟨parent, rfl, visited, here⟩
    obtain ⟨child, isChild, rfl⟩ := Option.map_eq_some_iff.1 here
    obtain ⟨inside, rfl⟩ := List.getElem?_eq_some_iff.1 isChild
    exact ⟨parent, visited, List.mem_mapIdx.2 ⟨position, inside, rfl⟩⟩

/-! ## Parents -/

theorem parentAmong?_eq_find?
    {id : NodeId}
    {children : List Tree}
    (each : ∀ child ∈ children, child.parentOf? id =
      (child.links.find? fun link => link.child.id == id).map fun link =>
        (link.parent, link.position))
    (parent : Tree)
    (position : Nat) :
    parentAmong? id parent position children =
      ((linksFrom parent position children).find? fun link => link.child.id == id).map
        fun link => (link.parent, link.position) := by
  induction children generalizing position with
  | nil => rfl
  | cons child rest restHypothesis =>
      obtain ⟨here, behind⟩ := List.forall_mem_cons.1 each
      rw [parentAmong?_cons, linksFrom_cons, here, restHypothesis behind]
      by_cases named : child.id = id
      · simp [named]
      · simp [named, List.find?_append, Option.map_or]

/-- The parent that is found is that of the first node below the root with the identifier. -/
theorem parentOf?_eq_find?_links
    (tree : Tree)
    (id : NodeId) :
    tree.parentOf? id =
      (tree.links.find? fun link => link.child.id == id).map fun link =>
        (link.parent, link.position) := by
  induction tree using childInduction with
  | step tree childHypothesis =>
      rw [parentOf?_eq, links_eq_linksFrom]
      exact parentAmong?_eq_find? childHypothesis tree 0

/-- No parent is found exactly if no node below the root has the identifier. -/
theorem parentOf?_eq_none_iff
    (tree : Tree)
    (id : NodeId) :
    tree.parentOf? id = none ↔ id ∉ tree.idsBelow := by
  have below : tree.idsBelow = tree.links.map fun link => link.child.id := by
    rw [idsBelow, ids, ← cons_map_child_links, List.map_cons, List.drop_one, List.tail_cons,
      List.map_map]
    rfl
  rw [parentOf?_eq_find?_links, Option.map_eq_none_iff, List.find?_eq_none, below]
  simp

/-- With distinct identifiers the parent of a node is the one that an edge leads from. -/
theorem parentOf?_eq_some_iff_mem_edges
    {tree parent : Tree}
    {id : NodeId}
    {position : Nat}
    (distinct : tree.ids.Nodup) :
    tree.parentOf? id = some (parent, position) ↔
      parent ∈ tree.walk ∧ ⟨parent.id, id, position⟩ ∈ tree.edges := by
  rw [parentOf?_eq_some_iff distinct, mem_edges_iff]
  constructor
  · intro child
    exact ⟨child.1, parent, rfl, child⟩
  · rintro ⟨visited, other, same, child⟩
    obtain rfl := eq_of_id_eq distinct child.1 visited same
    exact child

/-- With distinct identifiers only the root has no parent. -/
theorem parentOf?_eq_none_iff_of_distinct
    {tree : Tree}
    (distinct : tree.ids.Nodup)
    (id : NodeId) :
    tree.parentOf? id = none ↔ id = tree.id ∨ id ∉ tree.ids := by
  rw [ids_eq_cons_idsBelow, List.nodup_cons] at distinct
  rw [parentOf?_eq_none_iff, ids_eq_cons_idsBelow, List.mem_cons, not_or]
  constructor
  · intro absent
    by_cases isRoot : id = tree.id
    · exact Or.inl isRoot
    · exact Or.inr ⟨isRoot, absent⟩
  · rintro (rfl | ⟨_, absent⟩)
    · exact distinct.1
    · exact absent

end Tree
end ContingentClaims
