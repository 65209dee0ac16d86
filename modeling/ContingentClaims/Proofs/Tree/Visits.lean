import ContingentClaims.Proofs.Tree.Context

/-!
# Visiting the nodes of a tree

A walk keeps a stack of trees that are still to come. From every stack it comes to an end, and
by then it has visited the nodes in pre-order (`visits_iff`). The searches by identifier end at
the first visited node that has it: `find?` returns this node, and `update?` changes it where
it stands (`find?_eq_find?_walk`, `exists_visit_of_update?`).
-/

namespace ContingentClaims
namespace Tree

/-! ## The stack -/

/-- One step of a walk. The tree on top of the stack, its last one, is visited, and its
children are pushed from the last to the first. -/
def visit? (stack : List Tree) : Option (Tree × List Tree) :=
  stack.getLast?.map fun tree => (tree, stack.dropLast ++ tree.children.reverse)

@[simp] theorem visit?_nil : visit? [] = none := rfl

@[simp] theorem visit?_concat
    (stack : List Tree)
    (tree : Tree) :
    visit? (stack ++ [tree]) = some (tree, stack ++ tree.children.reverse) := by
  simp [visit?]

/-- The nodes that are visited from a stack on, until nothing is left on it. -/
inductive Visits : List Tree -> List Tree -> Prop
  | done
      {stack : List Tree}
      (ended : visit? stack = none) :
      Visits stack []
  | step
      {stack later nodes : List Tree}
      {node : Tree}
      (visited : visit? stack = some (node, later))
      (rest : Visits later nodes) :
      Visits stack (node :: nodes)

/-- Each step is determined by the stack, and so are all of them. -/
theorem Visits.unique
    {stack nodes others : List Tree}
    (visits : Visits stack nodes)
    (again : Visits stack others) :
    nodes = others := by
  induction visits generalizing others with
  | done ended =>
      cases again with
      | done => rfl
      | step visited =>
          rw [ended] at visited
          cases visited
  | step visited _ restHypothesis =>
      cases again with
      | done ended =>
          rw [visited] at ended
          cases ended
      | step visitedAgain rest =>
          rw [visited, Option.some.injEq, Prod.mk.injEq] at visitedAgain
          obtain ⟨rfl, rfl⟩ := visitedAgain
          rw [restHypothesis rest]

/-- A walk comes to an end from every stack, here given from its top down. -/
theorem visits_walkStack (stack : List Tree) : Visits stack.reverse (walkStack stack) := by
  fun_induction walkStack stack with
  | case1 => exact .done rfl
  | case2 tree rest restHypothesis =>
      rw [List.reverse_append] at restHypothesis
      rw [List.reverse_cons]
      exact .step (visit?_concat rest.reverse tree) restHypothesis

/-- From a tree on, the nodes of its walk are visited and no others. -/
theorem visits_iff
    (tree : Tree)
    (nodes : List Tree) :
    Visits [tree] nodes ↔ nodes = tree.walk := by
  have visits := visits_walkStack [tree]
  constructor
  · intro others
    exact others.unique visits
  · rintro rfl
    exact visits

/-- The root is visited first, and then its children are walked one after the other. -/
theorem walk_eq (tree : Tree) : tree.walk = tree :: tree.children.flatMap walk := by
  have listed : walk = preorder := funext walk_eq_preorder
  rw [listed, preorder_eq, preorderAll_eq_flatMap]

theorem map_id_flatMap_walk (trees : List Tree) :
    (trees.flatMap walk).map (·.id) = idsOfAll trees :=
  List.map_flatMap

/-! ## Searching -/

theorem findIn?_eq_find?
    {id : NodeId}
    {trees : List Tree}
    (each : ∀ tree ∈ trees, tree.find? id = tree.walk.find? fun node => node.id == id) :
    findIn? id trees = (trees.flatMap walk).find? fun node => node.id == id := by
  induction trees with
  | nil => rfl
  | cons tree rest restHypothesis =>
      obtain ⟨here, behind⟩ := List.forall_mem_cons.1 each
      rw [findIn?_cons, here, restHypothesis behind, List.flatMap_cons, List.find?_append]

/-- The node that is found is the first one visited that has the identifier. -/
theorem find?_eq_find?_walk
    (tree : Tree)
    (id : NodeId) :
    tree.find? id = tree.walk.find? fun node => node.id == id := by
  induction tree using childInduction with
  | step tree childHypothesis =>
      rw [find?_eq, walk_eq, findIn?_eq_find? childHypothesis]
      by_cases here : tree.id = id
      · rw [if_pos here]
        exact (List.find?_cons_of_pos (by simpa using here)).symm
      · rw [if_neg here]
        exact (List.find?_cons_of_neg (by simpa using here)).symm

/-- The node that a walk visits after some others stands in a context, and the others are what
comes before it there. -/
structure VisitedAfter
    (root : Tree)
    (before : List Tree)
    (context : Context)
    (node : Tree) : Prop where
  visited : ∃ behind, root.walk = before ++ node :: behind
  whole : root = context.plug node
  named : before.map (·.id) = context.idsBefore

/-- A node is visited after all that comes before it in its context. -/
theorem exists_visitedAfter_plug
    (context : Context)
    (node : Tree) :
    ∃ before, (context.plug node).VisitedAfter before context node := by
  suffices split : ∃ before behind,
      (context.plug node).walk = before ++ node.walk ++ behind ∧
        before.map (·.id) = context.idsBefore by
    obtain ⟨before, behind, split, named⟩ := split
    rw [walk_eq node, List.append_assoc, List.cons_append] at split
    exact ⟨before, ⟨_, split⟩, rfl, named⟩
  induction context generalizing node with
  | nil => exact ⟨[], [], by simp, rfl⟩
  | cons frame outer outerHypothesis =>
      obtain ⟨before, behind, split, named⟩ := outerHypothesis (frame.fill node)
      refine ⟨before ++ frame.fill node :: frame.before.flatMap walk,
        frame.behind.flatMap walk ++ behind, ?_, ?_⟩
      · rw [Context.plug_cons, split, walk_eq (frame.fill node)]
        simp
      · rw [List.map_append, List.map_cons, named, map_id_flatMap_walk, Frame.id_fill,
          Context.idsBefore_cons]

/-- A change is made to the first node visited that has the identifier, in its place. -/
theorem exists_visit_of_update?
    {root node : Tree}
    {id : NodeId}
    (found : (root.walk.find? fun node => node.id == id) = some node)
    (change : Tree -> Tree) :
    ∃ before context, root.VisitedAfter before context node ∧
      node.id = id ∧ (∀ other ∈ before, other.id ≠ id) ∧
      root.update? id change = some (context.plug (change node)) := by
  rw [← find?_eq_find?_walk] at found
  obtain ⟨context, rfl, rfl, absent⟩ := exists_context_of_find? found
  obtain ⟨before, visited⟩ := exists_visitedAfter_plug context node
  refine ⟨before, context, visited, rfl, ?_, Context.update?_plug_self absent change⟩
  intro other isBefore same
  rw [← visited.named, List.mem_map] at absent
  exact absent ⟨other, isBefore, same⟩

/-- Nothing is changed if no node has the identifier. -/
theorem update?_eq_none_of_find?
    {root : Tree}
    {id : NodeId}
    (missing : (root.walk.find? fun node => node.id == id) = none)
    (change : Tree -> Tree) :
    root.update? id change = none := by
  rw [← find?_eq_find?_walk] at missing
  exact update?_eq_none (not_mem_ids_of_find?_eq_none missing)

end Tree
end ContingentClaims
