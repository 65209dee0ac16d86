import ContingentClaims.Proofs.Tree.Context
import ContingentClaims.Proofs.Tree.Likeness

/-!
# Equality up to identifiers

Trees of one shape are those that become equal when all nodes get the same identifier
(`sameShape_iff_renamed`), and equal trees are those of one shape with the same identifiers in
pre-order (`beq_iff_sameShape`). To have one shape is an equivalence, since decimals are
compared by value.
-/

namespace ContingentClaims

/-! ## Leaves -/

/-- Both equations are brought to the scale in the middle, which is then cancelled. -/
theorem Decimal.sameValue_trans
    {left middle right : Decimal}
    (first : left.sameValue middle = true)
    (second : middle.sameValue right = true) :
    left.sameValue right = true := by
  rw [sameValue, beq_iff_eq] at first second ⊢
  have notZero : (Digits.tenPower middle.scale : Int) ≠ 0 :=
    Int.natCast_ne_zero.2 (Nat.ne_of_gt (Nat.pow_pos (by decide : 0 < 10)))
  apply Int.eq_of_mul_eq_mul_right notZero
  calc left.signed * Digits.tenPower right.scale * Digits.tenPower middle.scale
      = middle.signed * Digits.tenPower left.scale * Digits.tenPower right.scale := by
        rw [Int.mul_right_comm, first]
    _ = right.signed * Digits.tenPower middle.scale * Digits.tenPower left.scale := by
        rw [Int.mul_right_comm, second]
    _ = right.signed * Digits.tenPower left.scale * Digits.tenPower middle.scale :=
        Int.mul_right_comm ..

namespace Leaf

variable {left middle right : Leaf}

theorem sameValue_symm (same : left.sameValue right = true) : right.sameValue left = true := by
  cases alike_of_beq same with
  | decimal value => exact (Decimal.sameValue_comm _ _).trans value
  | asset asset => exact (Leaf.asset asset).sameValue_self
  | date date => exact (Leaf.date date).sameValue_self
  | key key => exact (Leaf.key key).sameValue_self

theorem sameValue_trans
    (first : left.sameValue middle = true)
    (second : middle.sameValue right = true) :
    left.sameValue right = true := by
  cases alike_of_beq first with
  | decimal value =>
      cases alike_of_beq second with
      | decimal other => exact Decimal.sameValue_trans value other
  | asset asset => exact second
  | date date => exact second
  | key key => exact second

end Leaf

/-- Equality of what nodes carry is an equivalence. -/
theorem value_equivalence :
    Equivalence fun left right : Option Leaf => (left == right) = true where
  refl := value_beq_self
  symm := by
    rintro (_ | left) (_ | right) same
    · rfl
    · cases same
    · cases same
    · exact Leaf.sameValue_symm same
  trans := by
    rintro (_ | left) (_ | middle) right first second
    · exact second
    · cases first
    · cases first
    · cases right with
      | none => cases second
      | some right => exact Leaf.sameValue_trans first second

namespace Tree

variable {left middle right : Tree}

/-! ## One shape -/

theorem sameShape_symm (same : left.sameShape right = true) : right.sameShape left = true := by
  induction left using childInduction generalizing right with
  | step left childHypothesis =>
      obtain ⟨tag, type, text, value, children⟩ := (sameShape_iff left right).1 same
      refine (sameShape_iff right left).2
        ⟨tag.symm, type.symm, text.symm, value_equivalence.symm value, ?_⟩
      have flipped := forall₂_imp_of_mem children fun child isChild other same =>
        childHypothesis child isChild same
      exact flipped.flip

/-- Two relations in turn, member by member. -/
theorem forall₂_comp
    {first second : Tree -> Tree -> Prop}
    {left middle right : List Tree}
    (front : List.Forall₂ first left middle)
    (back : List.Forall₂ second middle right) :
    List.Forall₂ (Relation.Comp first second) left right := by
  induction front generalizing right with
  | nil =>
      cases back
      exact .nil
  | cons one _ restHypothesis =>
      cases back with
      | cons other rest => exact .cons ⟨_, one, other⟩ (restHypothesis rest)

theorem sameShape_trans
    (first : left.sameShape middle = true)
    (second : middle.sameShape right = true) :
    left.sameShape right = true := by
  induction left using childInduction generalizing middle right with
  | step left childHypothesis =>
      obtain ⟨tag, type, text, value, children⟩ := (sameShape_iff left middle).1 first
      obtain ⟨tag', type', text', value', children'⟩ := (sameShape_iff middle right).1 second
      refine (sameShape_iff left right).2 ⟨tag.trans tag', type.trans type', text.trans text',
        value_equivalence.trans value value', ?_⟩
      refine forall₂_imp_of_mem (forall₂_comp children children') ?_
      rintro child isChild other ⟨between, one, next⟩
      exact childHypothesis child isChild one next

/-- To have one shape is an equivalence. -/
theorem sameShape_equivalence :
    Equivalence fun left right : Tree => left.sameShape right = true where
  refl := sameShape_self
  symm := sameShape_symm
  trans := sameShape_trans

/-! ## The same identifiers -/

theorem sameTrees_iff (left right : List Tree) :
    sameTrees left right = true ↔
      List.Forall₂ (fun tree other => (tree == other) = true) left right := by
  induction left generalizing right with
  | nil => cases right <;> simp [sameTrees]
  | cons tree rest restHypothesis =>
      cases right with
      | nil => simp [sameTrees]
      | cons other others =>
          rw [sameTrees, Bool.and_eq_true, restHypothesis, List.forall₂_cons]
          rfl

/-- Trees are equal if all that they consist of is, and the children are. -/
theorem beq_iff (left right : Tree) :
    (left == right) = true ↔
      left.id = right.id ∧ left.tag = right.tag ∧ left.type = right.type ∧
        left.text = right.text ∧ (left.value == right.value) = true ∧
        List.Forall₂ (fun tree other => (tree == other) = true)
          left.children right.children := by
  rcases left with ⟨id, tag, type, children, text, value⟩
  rcases right with ⟨id', tag', type', children', text', value'⟩
  change sameTree _ _ = true ↔ _
  rw [← sameTrees_iff]
  simp only [sameTree, Bool.and_eq_true, beq_iff_eq]
  tauto

/-- Trees of one shape have as many identifiers. -/
theorem length_ids_of_sameShape (same : left.sameShape right = true) :
    left.ids.length = right.ids.length := by
  rw [ids_eq_map, ids_eq_map, List.length_map, List.length_map]
  exact (alike_of_sameShape same).preorder_rel.length_eq

/-- Lists of trees of one shape each split a common list of identifiers at the same places. -/
theorem forall₂_sameShape_and_ids_iff (left right : List Tree) :
    List.Forall₂ (fun tree other => tree.sameShape other = true ∧ tree.ids = other.ids)
        left right ↔
      List.Forall₂ (fun tree other => tree.sameShape other = true) left right ∧
        idsOfAll left = idsOfAll right := by
  constructor
  · intro equal
    refine ⟨equal.imp fun _ _ both => both.1, ?_⟩
    induction equal with
    | nil => rfl
    | cons both _ restHypothesis => rw [idsOfAll_cons, idsOfAll_cons, both.2, restHypothesis]
  · rintro ⟨shapes, equal⟩
    induction shapes with
    | nil => exact .nil
    | cons same _ restHypothesis =>
        rw [idsOfAll_cons, idsOfAll_cons] at equal
        obtain ⟨here, behind⟩ := List.append_inj equal (length_ids_of_sameShape same)
        exact .cons ⟨same, here⟩ (restHypothesis behind)

/-- Equal trees are those of one shape that list the same identifiers. -/
theorem beq_iff_sameShape (left right : Tree) :
    (left == right) = true ↔ left.sameShape right = true ∧ left.ids = right.ids := by
  induction left using childInduction generalizing right with
  | step left childHypothesis =>
      have children :
          List.Forall₂ (fun tree other => (tree == other) = true)
              left.children right.children ↔
            List.Forall₂ (fun tree other => tree.sameShape other = true ∧ tree.ids = other.ids)
              left.children right.children := by
        constructor
        · intro equal
          exact forall₂_imp_of_mem equal fun child isChild other =>
            (childHypothesis child isChild other).1
        · intro equal
          exact forall₂_imp_of_mem equal fun child isChild other =>
            (childHypothesis child isChild other).2
      rw [beq_iff, children, forall₂_sameShape_and_ids_iff, sameShape_iff, ids_eq, ids_eq,
        List.cons.injEq]
      tauto

/-! ## One identifier for all nodes -/

theorem sameShape_renamed
    (tree : Tree)
    (id : NodeId) :
    tree.sameShape (tree.renamed id) = true := by
  induction tree using childInduction with
  | step tree childHypothesis =>
      rw [renamed_eq, sameShape_iff]
      refine ⟨rfl, rfl, rfl, value_beq_self tree.value, ?_⟩
      rw [List.forall₂_map_right_iff, List.forall₂_same]
      exact childHypothesis

theorem eq_of_mem_ids_renamed
    {tree : Tree}
    {id target : NodeId}
    (present : target ∈ (tree.renamed id).ids) :
    target = id := by
  induction tree using childInduction with
  | step tree childHypothesis =>
      rw [renamed_eq, ids_eq, List.mem_cons, idsOfAll, List.mem_flatMap] at present
      rcases present with here | ⟨child, isChild, below⟩
      · exact here
      · obtain ⟨original, isOriginal, rfl⟩ := List.mem_map.1 isChild
        exact childHypothesis original isOriginal below

theorem ids_renamed
    (tree : Tree)
    (id : NodeId) :
    (tree.renamed id).ids = List.replicate tree.ids.length id := by
  rw [List.eq_replicate_iff]
  refine ⟨(length_ids_of_sameShape (sameShape_renamed tree id)).symm, ?_⟩
  intro target present
  exact eq_of_mem_ids_renamed present

/-- Trees have one shape exactly if they are equal with one identifier on all nodes. -/
theorem sameShape_iff_renamed
    (left right : Tree)
    (id : NodeId) :
    left.sameShape right = true ↔ (left.renamed id == right.renamed id) = true := by
  have toLeft := sameShape_renamed left id
  have toRight := sameShape_renamed right id
  rw [beq_iff_sameShape, ids_renamed, ids_renamed]
  constructor
  · intro same
    refine ⟨sameShape_trans (sameShape_symm toLeft) (sameShape_trans same toRight), ?_⟩
    rw [length_ids_of_sameShape same]
  · rintro ⟨same, _⟩
    exact sameShape_trans toLeft (sameShape_trans same (sameShape_symm toRight))

/-- Shape is what is left of trees up to identifiers: to have one shape is an equivalence, it
is equality once all identifiers are one, and it takes the identifiers in pre-order to make it
equality. -/
theorem sameShape_is_equality_up_to_ids :
    Equivalence (fun left right : Tree => left.sameShape right = true) ∧
      ∀ left right : Tree,
        (∀ id, left.sameShape right = true ↔ (left.renamed id == right.renamed id) = true) ∧
          ((left == right) = true ↔ left.sameShape right = true ∧ left.ids = right.ids) :=
  ⟨sameShape_equivalence, fun left right =>
    ⟨sameShape_iff_renamed left right, beq_iff_sameShape left right⟩⟩

end Tree
end ContingentClaims
