import ContingentClaims.Proofs.Tree.Children
import ContingentClaims.Tree.Shape
import Mathlib.Data.List.Forall2

/-!
# Trees of the same shape

What equality up to identifiers compares, field by field. A tree has its own shape.
-/

namespace ContingentClaims

theorem Leaf.sameValue_self (leaf : Leaf) : leaf.sameValue leaf = true := by
  cases leaf with
  | decimal value => exact value.sameValue_self
  | asset asset => exact beq_self_eq_true asset
  | date date => exact beq_self_eq_true date
  | key key => exact beq_self_eq_true key

/-- What a node carries equals itself by value. -/
theorem value_beq_self (value : Option Leaf) : (value == value) = true := by
  cases value with
  | none => rfl
  | some leaf => exact leaf.sameValue_self

theorem sameShapes_iff
    {left right : List Tree}
    (counted : left.length = right.length) :
    sameShapes left right = true ↔
      List.Forall₂ (fun tree other => tree.sameShape other = true) left right := by
  induction left generalizing right with
  | nil =>
      obtain rfl := List.length_eq_zero_iff.1 counted.symm
      simp [sameShapes]
  | cons tree rest restHypothesis =>
      cases right with
      | nil => simp at counted
      | cons other others =>
          have restCounted : rest.length = others.length := Nat.succ.inj counted
          simp [sameShapes, restHypothesis restCounted]

/-- Related lists of trees are related otherwise if this holds of each of the first ones. -/
theorem forall₂_imp_of_mem
    {related implied : Tree -> Tree -> Prop}
    {left right : List Tree}
    (trees : List.Forall₂ related left right)
    (imp : ∀ tree ∈ left, ∀ other, related tree other -> implied tree other) :
    List.Forall₂ implied left right := by
  have both := (List.forall₂_and_left left right).2 ⟨fun _ isIn => isIn, trees⟩
  exact both.imp fun tree other pair => imp tree pair.1 other pair.2

namespace Tree

/-- Trees have the same shape if all but their identifiers agrees, and the shapes of the
children do. -/
theorem sameShape_iff (left right : Tree) :
    left.sameShape right = true ↔
      left.tag = right.tag ∧ left.type = right.type ∧ left.text = right.text ∧
        (left.value == right.value) = true ∧
        List.Forall₂ (fun tree other => tree.sameShape other = true)
          left.children right.children := by
  rcases left with ⟨id, tag, type, children, text, value⟩
  rcases right with ⟨id', tag', type', children', text', value'⟩
  by_cases counted : children.length = children'.length
  · simp [sameShape, counted, sameShapes_iff counted, and_assoc]
  · have apart : ¬List.Forall₂ (fun tree other => sameShape tree other = true)
        children children' := fun same => counted same.length_eq
    simp [sameShape, counted, apart]

theorem sameShape_self (tree : Tree) : tree.sameShape tree = true := by
  induction tree using childInduction with
  | step tree childHypothesis =>
      rw [sameShape_iff]
      refine ⟨rfl, rfl, rfl, value_beq_self tree.value, ?_⟩
      rw [List.forall₂_same]
      exact childHypothesis

end Tree
end ContingentClaims
