import ContingentClaims.Proofs.Grammar.Exchange

/-!
# Two nodes in their surroundings

Two nodes of a tree, neither below the other, stand below different children of some node.
What stands in the place of one of them is part of the context of the other, but it has no
say in the other's slot, nor in whether the other is an alternative. Such a pair of contexts
is a *fork*, and any two such nodes stand in one (`Tree.exists_fork`).
-/

namespace ContingentClaims

/-! ## Places in a context -/

namespace Context

/-- Two contexts have the same place for a node: the same slot, which is the place of an
alternative in both or in neither. -/
structure SamePlace (context other : Context) : Prop where
  slot : context.slot? = other.slot?
  electable : context.isElectable = other.isElectable

/-- Siblings of a node and of its ancestors may be exchanged for others, as long as their
number stays. -/
theorem samePlace_append_cons
    (inner outer : Context)
    {frame other : Frame}
    (sameTag : frame.tag = other.tag)
    (sameType : frame.type = other.type)
    (samePosition : frame.position = other.position) :
    SamePlace (inner ++ frame :: outer) (inner ++ other :: outer) := by
  cases inner with
  | nil => constructor <;> simp [slot?, Frame.slot?, isElectable, sameTag, sameType, samePosition]
  | cons innermost inner => exact ⟨rfl, rfl⟩

end Context

/-! ## Forks -/

/-- A tree with two missing nodes, neither below the other: the context of each of them, given
what stands in the place of the other. -/
structure Fork where
  left : Tree -> Context
  right : Tree -> Context
  /-- It does not matter which of the two comes into its place first. -/
  plug_comm : ∀ leftTree rightTree,
    (left rightTree).plug leftTree = (right leftTree).plug rightTree
  left_samePlace : ∀ rightTree other, (left rightTree).SamePlace (left other)
  right_samePlace : ∀ leftTree other, (right leftTree).SamePlace (right other)

namespace Fork

/-- The whole tree with trees in the places of the missing nodes. -/
def plug
    (fork : Fork)
    (leftTree rightTree : Tree) : Tree :=
  (fork.left rightTree).plug leftTree

theorem plug_eq_right
    (fork : Fork)
    (leftTree rightTree : Tree) :
    fork.plug leftTree rightTree = (fork.right leftTree).plug rightTree :=
  fork.plug_comm leftTree rightTree

/-- The same missing nodes the other way round. -/
def swap (fork : Fork) : Fork where
  left := fork.right
  right := fork.left
  plug_comm rightTree leftTree := (fork.plug_comm leftTree rightTree).symm
  left_samePlace := fork.right_samePlace
  right_samePlace := fork.left_samePlace

theorem plug_swap
    (fork : Fork)
    (leftTree rightTree : Tree) :
    fork.swap.plug rightTree leftTree = fork.plug leftTree rightTree :=
  (fork.plug_comm leftTree rightTree).symm

/-- Two missing nodes below different children of a node. The frame holds the children before
the first of these and behind the second; both are given with the way down to the missing
node. -/
def branch
    (outer : Context)
    (frame : Frame)
    (leftInner : Context)
    (between : List Tree)
    (rightInner : Context) : Fork where
  left rightTree :=
    leftInner ++
      { frame with behind := between ++ rightInner.plug rightTree :: frame.behind } :: outer
  right leftTree :=
    rightInner ++
      { frame with before := frame.before ++ leftInner.plug leftTree :: between } :: outer
  plug_comm leftTree rightTree := by
    simp [Context.plug_append, Frame.fill]
  left_samePlace rightTree other :=
    Context.samePlace_append_cons leftInner outer rfl rfl rfl
  right_samePlace leftTree other :=
    Context.samePlace_append_cons rightInner outer rfl rfl (by simp [Frame.position])

theorem plug_branch
    {node : Tree}
    {before between behind : List Tree}
    {leftInner rightInner : Context}
    {leftTree rightTree : Tree}
    (split : node.children =
      before ++ leftInner.plug leftTree :: between ++ rightInner.plug rightTree :: behind)
    (outer : Context) :
    (branch outer (Frame.around node before behind) leftInner between rightInner).plug
        leftTree rightTree =
      outer.plug node := by
  rw [List.append_assoc, List.cons_append] at split
  rw [plug, branch, Context.plug_append, Context.plug_cons]
  exact congrArg outer.plug (Frame.fill_around split)

end Fork

namespace Tree

/-- Somewhere two nodes part: they are below different children of a node. -/
theorem exists_parting
    {root first second : Tree}
    (firstPresent : first ∈ root.preorder)
    (secondPresent : second ∈ root.preorder)
    (notBelow : second ∉ first.preorder)
    (notAbove : first ∉ second.preorder) :
    ∃ (outer : Context) (node : Tree) (before between behind : List Tree) (left right : Tree),
      root = outer.plug node ∧
        node.children = before ++ left :: between ++ right :: behind ∧
        (first ∈ left.preorder ∧ second ∈ right.preorder ∨
          second ∈ left.preorder ∧ first ∈ right.preorder) := by
  induction root using childInduction with
  | step root childHypothesis =>
      rcases (mem_preorder_iff first root).1 firstPresent with rfl | ⟨left, isLeft, inLeft⟩
      · exact absurd secondPresent notBelow
      rcases (mem_preorder_iff second root).1 secondPresent with rfl | ⟨right, isRight, inRight⟩
      · exact absurd firstPresent notAbove
      obtain ⟨before, behind, split⟩ := List.append_of_mem isLeft
      rw [split, List.mem_append, List.mem_cons] at isRight
      rcases isRight with isBefore | rfl | isBehind
      · obtain ⟨before, between, rfl⟩ := List.append_of_mem isBefore
        exact ⟨[], root, before, between, behind, right, left, rfl, split, .inr ⟨inRight, inLeft⟩⟩
      · -- Both are below the same child and part further down.
        obtain ⟨inner, node, before', between, behind', left', right', whole, parts, sides⟩ :=
          childHypothesis right isLeft inLeft inRight
        refine ⟨inner ++ [Frame.around root before behind], node, before', between, behind',
          left', right', ?_, parts, sides⟩
        rw [Context.plug_append, ← whole, Context.plug_cons, Context.plug_nil,
          Frame.fill_around split]
      · obtain ⟨between, behind, rfl⟩ := List.append_of_mem isBehind
        refine ⟨[], root, before, between, behind, left, right, rfl, ?_, .inl ⟨inLeft, inRight⟩⟩
        rw [split, List.append_assoc, List.cons_append]

/-- Two nodes of a tree, neither below the other, stand in a fork. -/
theorem exists_fork
    {root first second : Tree}
    (firstPresent : first ∈ root.preorder)
    (secondPresent : second ∈ root.preorder)
    (notBelow : second ∉ first.preorder)
    (notAbove : first ∉ second.preorder) :
    ∃ fork : Fork, root = fork.plug first second := by
  obtain ⟨outer, node, before, between, behind, left, right, rfl, split, sides⟩ :=
    exists_parting firstPresent secondPresent notBelow notAbove
  rcases sides with ⟨inLeft, inRight⟩ | ⟨inLeft, inRight⟩
  · obtain ⟨leftInner, rfl⟩ := exists_context_of_mem_preorder inLeft
    obtain ⟨rightInner, rfl⟩ := exists_context_of_mem_preorder inRight
    exact ⟨_, (Fork.plug_branch split outer).symm⟩
  · obtain ⟨leftInner, rfl⟩ := exists_context_of_mem_preorder inLeft
    obtain ⟨rightInner, rfl⟩ := exists_context_of_mem_preorder inRight
    have forked := (Fork.plug_branch split outer).symm
    exact ⟨Fork.swap _, forked.trans (Fork.plug_swap _ _ _).symm⟩

end Tree
end ContingentClaims
