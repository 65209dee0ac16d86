import ContingentClaims.Tree.Traversal

/-!
# Trees and their children

Induction on a tree by its children, and pre-order in terms of them. The mutual
recursions over a tree and the list of its children are opened here once; what is
proved about trees elsewhere goes by `Tree.childInduction`.
-/

namespace ContingentClaims
namespace Tree

mutual

private theorem childInductionTree
    {motive : Tree -> Prop}
    (step : ∀ tree, (∀ child ∈ tree.children, motive child) -> motive tree)
    (tree : Tree) : motive tree := by
  rcases tree with ⟨id, tag, type, children, text, value⟩
  exact step _ (childInductionList step children)
termination_by structural tree

private theorem childInductionList
    {motive : Tree -> Prop}
    (step : ∀ tree, (∀ child ∈ tree.children, motive child) -> motive tree)
    (trees : List Tree) : ∀ tree ∈ trees, motive tree := by
  cases trees with
  | nil => simp
  | cons first rest =>
      have firstHolds := childInductionTree step first
      have restHolds := childInductionList step rest
      simpa using And.intro firstHolds restHolds
termination_by structural trees

end

/-- What holds of a tree whenever it holds of all of its children holds of every
tree. -/
@[elab_as_elim] theorem childInduction
    {motive : Tree -> Prop}
    (step : ∀ tree, (∀ child ∈ tree.children, motive child) -> motive tree)
    (tree : Tree) : motive tree :=
  childInductionTree step tree

/-! ## Pre-order -/

theorem preorderAll_eq_flatMap (trees : List Tree) :
    preorderAll trees = trees.flatMap preorder := by
  induction trees with
  | nil => rfl
  | cons tree rest restHypothesis => simp [restHypothesis]

theorem mem_preorder_iff
    (node tree : Tree) :
    node ∈ tree.preorder ↔ node = tree ∨ ∃ child ∈ tree.children, node ∈ child.preorder := by
  rw [preorder_eq, preorderAll_eq_flatMap, List.mem_cons, List.mem_flatMap]

theorem mem_preorder_self (tree : Tree) : tree ∈ tree.preorder := by
  rw [mem_preorder_iff]
  exact Or.inl rfl

/-- A property of all nodes of a tree is one of the node and of all nodes below its
children. -/
theorem forall_mem_preorder_iff
    (property : Tree -> Prop)
    (tree : Tree) :
    (∀ node ∈ tree.preorder, property node) ↔
      property tree ∧ ∀ child ∈ tree.children, ∀ node ∈ child.preorder, property node := by
  constructor
  · intro holds
    refine ⟨holds tree (mem_preorder_self tree), fun child isChild node below => ?_⟩
    exact holds node ((mem_preorder_iff node tree).2 (Or.inr ⟨child, isChild, below⟩))
  · rintro ⟨root, below⟩ node present
    rcases (mem_preorder_iff node tree).1 present with rfl | ⟨child, isChild, present⟩
    · exact root
    · exact below child isChild node present

end Tree
end ContingentClaims
