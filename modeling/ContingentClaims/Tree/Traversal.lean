import ContingentClaims.Tree.Basic

/-!
# Walking a tree

The nodes of a tree in pre-order, each node before its children and the children
in operand order, and the searches that follow this order. `walk` visits the
nodes with a stack of subtrees that are still to come; `preorder` lists them by
recursion on the tree. `walk_eq_preorder` says that both are the same list.
-/

namespace ContingentClaims
namespace Tree

mutual

/-- The node and all nodes below it, in pre-order. -/
def preorder : Tree -> List Tree
  | ⟨id, tag, type, children, text, value⟩ =>
      ⟨id, tag, type, children, text, value⟩ :: preorderAll children
termination_by structural tree => tree

/-- The nodes of several trees, one tree after the other. -/
def preorderAll : List Tree -> List Tree
  | [] => []
  | tree :: rest => tree.preorder ++ preorderAll rest
termination_by structural trees => trees

end

theorem preorder_eq (tree : Tree) :
    tree.preorder = tree :: preorderAll tree.children := by
  cases tree
  rfl

@[simp] theorem preorderAll_nil : preorderAll [] = [] := rfl

@[simp] theorem preorderAll_cons
    (tree : Tree)
    (rest : List Tree) :
    preorderAll (tree :: rest) = tree.preorder ++ preorderAll rest := rfl

theorem preorderAll_append
    (front back : List Tree) :
    preorderAll (front ++ back) = preorderAll front ++ preorderAll back := by
  induction front with
  | nil => rfl
  | cons tree rest restHypothesis => simp [restHypothesis]

/-- Visit the trees of a stack. A node's children come before the rest. -/
def walkStack (stack : List Tree) : List Tree :=
  match stack with
  | [] => []
  | tree :: rest => tree :: walkStack (tree.children ++ rest)
  termination_by (preorderAll stack).length
  decreasing_by
    simp [preorder_eq, preorderAll_append]

/-- The nodes in the order in which they are visited. -/
def walk (tree : Tree) : List Tree :=
  walkStack [tree]

theorem walkStack_eq_preorderAll (stack : List Tree) :
    walkStack stack = preorderAll stack := by
  fun_induction walkStack stack with
  | case1 => rfl
  | case2 tree rest restHypothesis =>
      simp [restHypothesis, preorderAll_append, preorder_eq]

/-- The walk lists the nodes in pre-order. -/
theorem walk_eq_preorder (tree : Tree) : tree.walk = tree.preorder := by
  simp [walk, walkStack_eq_preorderAll]

/-- The number of nodes. -/
def count (tree : Tree) : Nat :=
  tree.walk.length

/-- No slot is open anywhere in the tree. -/
def isComplete (tree : Tree) : Bool :=
  tree.walk.all fun node => !node.isPlaceholder

/-- The identifiers in pre-order. -/
def ids (tree : Tree) : List NodeId :=
  tree.walk.map (·.id)

/-! ## Searching -/

mutual

/-- The first node with an identifier. -/
def find?
    (target : NodeId) : Tree -> Option Tree
  | ⟨id, tag, type, children, text, value⟩ =>
      if id = target then some ⟨id, tag, type, children, text, value⟩
      else findIn? target children
termination_by structural tree => tree

/-- The first node with an identifier in several trees. -/
def findIn?
    (target : NodeId) : List Tree -> Option Tree
  | [] => none
  | tree :: rest =>
      match tree.find? target with
      | some found => some found
      | none => findIn? target rest
termination_by structural trees => trees

end

mutual

/-- Apply a change to the first node with an identifier. The result is `none` if
there is no such node. -/
def update?
    (target : NodeId)
    (change : Tree -> Tree) : Tree -> Option Tree
  | ⟨id, tag, type, children, text, value⟩ =>
      if id = target then
        some (change ⟨id, tag, type, children, text, value⟩)
      else
        match updateIn? target change children with
        | some children => some ⟨id, tag, type, children, text, value⟩
        | none => none
termination_by structural tree => tree

/-- Apply a change to the first node with an identifier in several trees. -/
def updateIn?
    (target : NodeId)
    (change : Tree -> Tree) : List Tree -> Option (List Tree)
  | [] => none
  | tree :: rest =>
      match tree.update? target change with
      | some changed => some (changed :: rest)
      | none =>
          match updateIn? target change rest with
          | some rest => some (tree :: rest)
          | none => none
termination_by structural trees => trees

end

mutual

/-- The parent of the first child with an identifier, and the position of that
child among its siblings. -/
def parentOf?
    (target : NodeId) : Tree -> Option (Tree × Nat)
  | ⟨id, tag, type, children, text, value⟩ =>
      parentAmong? target ⟨id, tag, type, children, text, value⟩ 0 children
termination_by structural tree => tree

/-- Look at the children of `parent` from a position on. A child is tested itself
before its own children are searched. -/
def parentAmong?
    (target : NodeId)
    (parent : Tree)
    (position : Nat) : List Tree -> Option (Tree × Nat)
  | [] => none
  | child :: rest =>
      if child.id = target then some (parent, position)
      else
        match child.parentOf? target with
        | some found => some found
        | none => parentAmong? target parent (position + 1) rest
termination_by structural children => children

end

/-! ## Edges -/

/-- A link from a parent to a child at a position among its siblings. -/
structure Edge where
  source : NodeId
  target : NodeId
  position : Nat
  deriving DecidableEq

/-- The links from a node to its children. -/
def childEdges (tree : Tree) : List Edge :=
  tree.children.mapIdx fun position child => ⟨tree.id, child.id, position⟩

/-- All links, parents in pre-order. -/
def edges (tree : Tree) : List Edge :=
  tree.walk.flatMap childEdges

end Tree
end ContingentClaims
