import ContingentClaims.Tree.Traversal

/-!
# Equality of trees

Two trees have the same *shape* if they differ at most in their identifiers.
`==` on trees compares identifiers as well. Both compare decimals by value.
-/

namespace ContingentClaims

mutual

/-- Equality up to identifiers. -/
def Tree.sameShape : Tree -> Tree -> Bool
  | ⟨_, tag, type, children, text, value⟩, ⟨_, tag', type', children', text', value'⟩ =>
      tag == tag' && type == type' && text == text' && value == value' &&
        children.length == children'.length && sameShapes children children'
termination_by structural tree => tree

/-- Equality up to identifiers, position by position; the longer list is cut. -/
def sameShapes : List Tree -> List Tree -> Bool
  | tree :: rest, tree' :: rest' => tree.sameShape tree' && sameShapes rest rest'
  | _, _ => true
termination_by structural trees => trees

end

mutual

/-- Equality of trees with their identifiers. -/
def Tree.sameTree : Tree -> Tree -> Bool
  | ⟨id, tag, type, children, text, value⟩, ⟨id', tag', type', children', text', value'⟩ =>
      id == id' && tag == tag' && type == type' && sameTrees children children' &&
        text == text' && value == value'
termination_by structural tree => tree

/-- Equality of lists of trees with their identifiers. -/
def sameTrees : List Tree -> List Tree -> Bool
  | [], [] => true
  | tree :: rest, tree' :: rest' => tree.sameTree tree' && sameTrees rest rest'
  | _, _ => false
termination_by structural trees => trees

end

instance : BEq Tree where
  beq := Tree.sameTree

end ContingentClaims
