import ContingentClaims.Proofs.Decoding.Denotation
import ContingentClaims.Proofs.Tree.Children
import ContingentClaims.Proofs.Tree.Shape

/-!
# Drawings of a part

A tree *draws* a part if it has the shape of the trees that are written for the part
(`sameShape_iff_draws`), said without a source of identifiers: each of its nodes has the
tag, the type, the text and the leaf of the node of a part, over children that draw the
operands.
-/

namespace ContingentClaims
namespace Tree

/-- A tree draws a part. -/
inductive Draws : Tree -> Part -> Prop
  | node
      {id : NodeId}
      {part : Part}
      {children : List Tree}
      {value : Option Leaf}
      (carries : (part.value == value) = true)
      (operands : List.Forall₂ Draws children part.drawn) :
      Draws ⟨id, part.tag, part.type, children, part.text, value⟩ part

theorem draws_iff
    (tree : Tree)
    (part : Part) :
    tree.Draws part ↔
      tree.tag = part.tag ∧ tree.type = part.type ∧ tree.text = part.text ∧
        (part.value == tree.value) = true ∧ List.Forall₂ Draws tree.children part.drawn := by
  constructor
  · intro draws
    cases draws with
    | node carries operands => exact ⟨rfl, rfl, rfl, carries, operands⟩
  · rcases tree with ⟨id, tag, type, children, text, value⟩
    rintro ⟨rfl, rfl, rfl, carries, operands⟩
    exact .node carries operands

/-! ## Drawings and written trees -/

/-- Trees side by side with written ones, if each of them draws its part exactly in the
shape of the written tree. -/
theorem forall₂_sameShape_iff
    {trees written : List Tree}
    {parts : List Part}
    (encode : List.Forall₂ Encodes written parts)
    (shapes : ∀ tree ∈ trees, ∀ part (other : Tree), other.Encodes part ->
      (other.sameShape tree = true ↔ tree.Draws part)) :
    List.Forall₂ (fun other tree => other.sameShape tree = true) written trees ↔
      List.Forall₂ Draws trees parts := by
  induction encode generalizing trees with
  | nil => simp
  | cons encodes rest restHypothesis =>
      cases trees with
      | nil => simp
      | cons tree trees =>
          obtain ⟨first, others⟩ := List.forall_mem_cons.1 shapes
          rw [List.forall₂_cons, List.forall₂_cons, first _ _ encodes,
            restHypothesis others]

/-- A tree draws a part exactly if it has the shape of the tree that is written for the
part. -/
theorem sameShape_iff_draws
    {written tree : Tree}
    {part : Part}
    (encodes : written.Encodes part) :
    written.sameShape tree = true ↔ tree.Draws part := by
  induction tree using childInduction generalizing written part with
  | step tree childHypothesis =>
      obtain ⟨children, split, operands⟩ := encodes.exists_node
      have shapes := forall₂_sameShape_iff operands fun child isChild part other encodes =>
        childHypothesis child isChild encodes
      rw [sameShape_iff, draws_iff, split]
      simp only [Part.node, shapes]
      constructor
      · rintro ⟨tag, type, text, rest⟩
        exact ⟨tag.symm, type.symm, text.symm, rest⟩
      · rintro ⟨tag, type, text, rest⟩
        exact ⟨tag.symm, type.symm, text.symm, rest⟩

/-! ## Drawings are read -/

/-- Leaves that are equal by value are of one kind. -/
theorem kind_of_sameValue
    {left right : Leaf}
    (same : (left == right) = true) :
    right.kind = left.kind := by
  cases left <;> cases right <;> first | rfl | simp [BEq.beq, Leaf.sameValue] at same

/-- No leaf equals the missing one of an operator. -/
theorem eq_none_of_carries
    {value : Option Leaf}
    (carries : ((none : Option Leaf) == value) = true) :
    value = none := by
  cases value with
  | none => rfl
  | some content => simp at carries

theorem exists_denotes_operands
    {trees : List Tree}
    {parts : List Part}
    (draw : List.Forall₂ Draws trees parts)
    (readable : ∀ tree ∈ trees, ∀ part, tree.Draws part ->
      ∃ read, read.SameSort part ∧ tree.Denotes read) :
    ∃ reads, List.Forall₂ Part.SameSort reads parts ∧ List.Forall₂ Denotes trees reads := by
  induction draw with
  | nil => exact ⟨[], .nil, .nil⟩
  | cons draws rest restHypothesis =>
      obtain ⟨first, others⟩ := List.forall_mem_cons.1 readable
      obtain ⟨read, same, denotes⟩ := first _ draws
      obtain ⟨reads, sameRest, denoteRest⟩ := restHypothesis others
      exact ⟨read :: reads, .cons same sameRest, .cons denotes denoteRest⟩

/-- What draws a part is read as a part of its sort. -/
theorem Draws.exists_denotes
    {tree : Tree}
    {part : Part}
    (draws : tree.Draws part) :
    ∃ read, read.SameSort part ∧ tree.Denotes read := by
  induction tree using childInduction generalizing part with
  | step tree childHypothesis =>
      cases draws with
      | @node id part children value carries operands =>
          cases part with
          | leaf content =>
              obtain rfl := List.forall₂_nil_right_iff.1 operands
              cases value with
              | none => simp [Part.value] at carries
              | some found =>
                  have kind := kind_of_sameValue carries
                  refine ⟨.leaf found, .leaf kind, ?_⟩
                  exact (leaf_eq_ok_iff _ found).2 ⟨rfl, congrArg LeafKind.tag kind.symm, rfl, rfl⟩
          | claim | electable | observation | inequality =>
              obtain rfl : value = none := eq_none_of_carries carries
              obtain ⟨reads, same, denote⟩ := exists_denotes_operands operands
                fun child isChild part draws => childHypothesis child isChild draws
              obtain ⟨read, _, sameSort, denotes⟩ := denotes_redraw same denote id
              exact ⟨read, sameSort, denotes⟩

end Tree
end ContingentClaims
