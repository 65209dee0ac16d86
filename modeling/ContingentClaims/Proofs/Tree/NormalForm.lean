import ContingentClaims.Decoding
import ContingentClaims.Proofs.Term.Parts

/-!
# Normal forms of trees

One term has several trees: a difference may be drawn as a node of its own, as a marked
sum, or as a sum over a negation, and the texts of most nodes say nothing. The normal
form of a tree keeps the marked sum of these, and of the texts only labels, marks and the
captions of assets. Identifiers and leaves stay.
-/

namespace ContingentClaims
namespace Tree

/-! ## One node -/

/-- The text of a node: an alternative keeps its text as its label, which is empty if it
has none, a sum keeps the mark of a difference, and the node of an asset gets the identifier
of the asset. No other node has a text. -/
def normalText
    (alternative : Bool)
    (node : Tree) : Option String :=
  if alternative then
    some (node.text.getD "")
  else if node.type = .observation ∧ node.tag = ObservationTag.add.name ∧
      node.text = some "-" then
    some "-"
  else
    match node.value with
    | some (.asset asset) => some asset.id
    | _ => none

/-- The operand of a negation. -/
def negated? : Tree -> Option Tree
  | ⟨_, tag, .observation, [operand], _, _⟩ =>
      if tag = ObservationTag.neg.name then some operand else none
  | _ => none

/-- A difference, and a sum over a negation, as a marked sum. -/
def collapsed : Tree -> Tree
  | ⟨id, tag, .observation, [left, right], text, value⟩ =>
      if tag = ObservationTag.sub.name then
        ⟨id, ObservationTag.add.name, .observation, [left, right], some "-", value⟩
      else if tag = ObservationTag.add.name ∧ text ≠ some "-" then
        match right.negated? with
        | some operand =>
            ⟨id, tag, .observation, [left, operand], some "-", value⟩
        | none => ⟨id, tag, .observation, [left, right], text, value⟩
      else
        ⟨id, tag, .observation, [left, right], text, value⟩
  | node => node

/-- The node of a leaf gets the text with which it is written. -/
theorem normalText_of_value
    {node : Tree}
    {leaf : Leaf}
    (typed : node.type = .value)
    (carries : node.value = some leaf) :
    node.normalText false = leaf.caption := by
  cases leaf <;> simp [normalText, typed, carries, Leaf.caption]

/-! ## All nodes -/

mutual

/-- The normal form of a node that is an alternative or is none. -/
def normalAs : Tree -> Bool -> Tree
  | ⟨id, tag, type, children, text, value⟩, alternative =>
      collapsed ⟨id, tag, type, normalsFrom type tag 0 children,
        normalText alternative ⟨id, tag, type, children, text, value⟩, value⟩
termination_by structural tree => tree

/-- The normal forms of the children of a node, from a position on. -/
def normalsFrom
    (type : NodeType)
    (tag : String) : Nat -> List Tree -> List Tree
  | _, [] => []
  | position, child :: rest =>
      child.normalAs (takesLabel type tag position) :: normalsFrom type tag (position + 1) rest
termination_by structural _ trees => trees

end

/-- The normal form of a whole tree. -/
def normal (tree : Tree) : Tree :=
  tree.normalAs false

theorem normalAs_eq
    (tree : Tree)
    (alternative : Bool) :
    tree.normalAs alternative =
      collapsed ⟨tree.id, tree.tag, tree.type, normalsFrom tree.type tree.tag 0 tree.children,
        tree.normalText alternative, tree.value⟩ := by
  cases tree
  rfl

/-- Only observations collapse. -/
theorem collapsed_of_type
    {node : Tree}
    (other : node.type ≠ .observation) :
    node.collapsed = node := by
  unfold collapsed
  split
  · exact absurd rfl other
  · rfl

end Tree
end ContingentClaims
