import ContingentClaims.Proofs.Tree.Context
import ContingentClaims.Session.Edit
import Mathlib.Algebra.GroupWithZero.Nat

/-!
# The demand of a tree

How many names are drawn until no slot of a tree is open, if every slot is closed in the
shortest way. The demand of a tree adds up over its nodes, so exchanging a node in its context
changes it by the difference between the two (`Context.demand_plug`).
-/

namespace ContingentClaims

/-- The names that it takes to close an open slot. A claim is closed by one node and a leaf by
another, but an observation or an inequality by a node, a slot below it and the leaf in that
slot. -/
def NodeType.demand : NodeType -> Nat
  | claim => 1
  | observation => 3
  | inequality => 3
  | value => 1

namespace Tree

/-- The names that it takes to close a node, if it is an open slot. -/
def ownDemand (node : Tree) : Nat :=
  if node.isPlaceholder then node.type.demand else 0

/-- The names that it takes to close all open slots. -/
def demand (tree : Tree) : Nat :=
  (tree.walk.map ownDemand).sum

/-- The demand of several trees together. -/
def demandOfAll (trees : List Tree) : Nat :=
  ((preorderAll trees).map ownDemand).sum

theorem demand_eq_sum (tree : Tree) : tree.demand = (tree.preorder.map ownDemand).sum := by
  rw [demand, walk_eq_preorder]

/-- The demand of a node and of what is below it. -/
theorem demand_eq (tree : Tree) :
    tree.demand = tree.ownDemand + demandOfAll tree.children := by
  rw [demand_eq_sum, preorder_eq, List.map_cons, List.sum_cons]
  rfl

theorem demandOfAll_cons
    (tree : Tree)
    (rest : List Tree) :
    demandOfAll (tree :: rest) = tree.demand + demandOfAll rest := by
  rw [demandOfAll, preorderAll_cons, List.map_append, List.sum_append, ← demand_eq_sum]
  rfl

theorem demandOfAll_append
    (front back : List Tree) :
    demandOfAll (front ++ back) = demandOfAll front + demandOfAll back := by
  rw [demandOfAll, preorderAll_append, List.map_append, List.sum_append]
  rfl

/-- An open slot has the demand of its type at least. -/
theorem demand_le_of_isPlaceholder
    {node : Tree}
    (isOpen : node.isPlaceholder = true) :
    node.type.demand ≤ node.demand := by
  rw [demand_eq, ownDemand, if_pos isOpen]
  exact Nat.le_add_right _ _

/-- A subtree has the same demand where it takes over a node. -/
theorem demand_takeOver
    (subtree : Tree)
    (keepText : Bool)
    (node : Tree) :
    (subtree.takeOver keepText node).demand = subtree.demand := by
  rw [demand_eq, demand_eq]
  rfl

end Tree

namespace Context

/-- In a context the demand changes as it does for the tree that is plugged in. -/
theorem demand_plug
    (context : Context)
    (left right : Tree) :
    (context.plug left).demand + right.demand = (context.plug right).demand + left.demand := by
  induction context generalizing left right with
  | nil => exact Nat.add_comm _ _
  | cons frame outer outerHypothesis =>
      have around := outerHypothesis (frame.fill left) (frame.fill right)
      have sameOwn : (frame.fill left).ownDemand = (frame.fill right).ownDemand := rfl
      rw [(frame.fill left).demand_eq, (frame.fill right).demand_eq, sameOwn,
        Frame.children_fill, Frame.children_fill, Tree.demandOfAll_append,
        Tree.demandOfAll_append, Tree.demandOfAll_cons, Tree.demandOfAll_cons] at around
      rw [plug_cons, plug_cons]
      omega

/-- Where a subtree takes over an open slot, the demand goes down by the names for which the
subtree makes up. -/
theorem demand_plug_takeOver_le
    (context : Context)
    {node subtree : Tree}
    {amount : Nat}
    (isOpen : node.isPlaceholder = true)
    (cost : subtree.demand + amount ≤ node.type.demand)
    (keepText : Bool) :
    amount + (context.plug (subtree.takeOver keepText node)).demand ≤
      (context.plug node).demand := by
  have exchanged := context.demand_plug (subtree.takeOver keepText node) node
  have open_le := Tree.demand_le_of_isPlaceholder isOpen
  rw [Tree.demand_takeOver] at exchanged
  omega

end Context
end ContingentClaims
