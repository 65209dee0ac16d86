import ContingentClaims.Proofs.Decoding.Faults
import ContingentClaims.Proofs.Term.Likeness
import ContingentClaims.Proofs.Tree.Shape

/-!
# Trees that are alike

Two trees are alike if they differ at most in their identifiers and in their decimals, and
the decimals are related in the same places. Trees of one shape are alike with decimals of
equal value, and trees that differ in nothing but identifiers with equal ones.

The check of a tree takes the same course on both: nodes in the same place are open slots
or have a defect on both sides, and the errors differ at most in the identifiers in them
(`Tree.Alike.firstBlame?_reading`, `Tree.Alike.validate_iff`).
-/

namespace ContingentClaims

/-- Leaves of one kind with related decimals. -/
inductive Leaf.Alike (same : Decimal -> Decimal -> Prop) : Leaf -> Leaf -> Prop
  | asset (asset : Asset) : Alike same (.asset asset) (.asset asset)
  | decimal
      {left right : Decimal}
      (value : same left right) :
      Alike same (.decimal left) (.decimal right)
  | date (date : Date) : Alike same (.date date) (.date date)
  | key (key : String) : Alike same (.key key) (.key key)

theorem Leaf.Alike.kind
    {same : Decimal -> Decimal -> Prop}
    {left right : Leaf}
    (alike : left.Alike same right) :
    left.kind = right.kind := by
  cases alike <;> rfl

theorem Leaf.alike_of_beq
    {left right : Leaf}
    (equal : (left == right) = true) :
    left.Alike Decimal.Equals right := by
  change left.sameValue right = true at equal
  cases left with
  | decimal value =>
      cases right with
      | decimal other => exact .decimal equal
      | _ => cases equal
  | asset asset =>
      cases right with
      | asset other =>
          obtain rfl := eq_of_beq equal
          exact .asset asset
      | _ => cases equal
  | date date =>
      cases right with
      | date other =>
          obtain rfl := eq_of_beq equal
          exact .date date
      | _ => cases equal
  | key key =>
      cases right with
      | key other =>
          obtain rfl := eq_of_beq equal
          exact .key key
      | _ => cases equal

/-- Trees that differ at most in their identifiers and in related decimals. -/
inductive Tree.Alike (same : Decimal -> Decimal -> Prop) : Tree -> Tree -> Prop
  | node
      {left right : Tree}
      (tag : left.tag = right.tag)
      (type : left.type = right.type)
      (text : left.text = right.text)
      (value : Option.Rel (Leaf.Alike same) left.value right.value)
      (children : List.Forall₂ (Tree.Alike same) left.children right.children) :
      Tree.Alike same left right

/-! ## Names in errors -/

/-- A defect without the identifier of an operand. -/
def Defect.unnamed : Defect -> Defect
  | operandType position slot found _ => operandType position slot found ""
  | defect => defect

namespace TreeError

/-- An error without the identifiers in it: the variant, the tag and the defect stay. -/
def unnamed : TreeError -> TreeError
  | incomplete _ tag => incomplete "" tag
  | invalid _ tag defect => invalid "" tag defect.unnamed

@[simp] theorem isIncomplete_unnamed (error : TreeError) :
    error.unnamed.isIncomplete = error.isIncomplete := by
  cases error <;> rfl

@[simp] theorem nodeTag_unnamed (error : TreeError) :
    error.unnamed.nodeTag = error.nodeTag := by
  cases error <;> rfl

end TreeError

namespace Tree

/-! ## Trees with one identifier -/

mutual

/-- The tree with the same identifier on every node. -/
def renamed
    (id : NodeId) : Tree -> Tree
  | ⟨_, tag, type, children, text, value⟩ =>
      ⟨id, tag, type, renamedAll id children, text, value⟩
termination_by structural tree => tree

/-- Trees with the same identifier on every node. -/
def renamedAll
    (id : NodeId) : List Tree -> List Tree
  | [] => []
  | tree :: rest => tree.renamed id :: renamedAll id rest
termination_by structural trees => trees

end

theorem renamed_eq
    (id : NodeId)
    (tree : Tree) :
    tree.renamed id =
      ⟨id, tree.tag, tree.type, tree.children.map (renamed id), tree.text, tree.value⟩ := by
  have listed (trees : List Tree) : renamedAll id trees = trees.map (renamed id) := by
    induction trees with
    | nil => rfl
    | cons first rest restHypothesis => rw [renamedAll, restHypothesis, List.map_cons]
  cases tree
  rw [renamed, listed]

/-- Trees that become the same with one identifier on every node differ in nothing else. -/
theorem alike_of_renamed
    {left right : Tree}
    {id : NodeId}
    (equal : left.renamed id = right.renamed id) :
    left.Alike Eq right := by
  induction left using childInduction generalizing right with
  | step left childHypothesis =>
      rw [renamed_eq, renamed_eq, mk.injEq] at equal
      obtain ⟨_, tag, type, children, text, value⟩ := equal
      refine .node tag type text ?_ ?_
      · rw [← value]
        cases left.value with
        | none => exact .none
        | some leaf =>
            refine .some ?_
            cases leaf with
            | asset asset => exact .asset asset
            | decimal value => exact .decimal rfl
            | date date => exact .date date
            | key key => exact .key key
      · rw [← List.forall₂_eq_eq_eq, List.forall₂_map_left_iff,
          List.forall₂_map_right_iff] at children
        exact forall₂_imp_of_mem children fun child isChild other equal =>
          childHypothesis child isChild equal

/-- Trees of one shape are alike with decimals of equal value. -/
theorem alike_of_sameShape
    {left right : Tree}
    (equal : left.sameShape right = true) :
    left.Alike Decimal.Equals right := by
  induction left using childInduction generalizing right with
  | step left childHypothesis =>
      obtain ⟨tag, type, text, value, children⟩ := (sameShape_iff left right).1 equal
      refine .node tag type text ?_ ?_
      · generalize left.value = leftValue at value
        generalize right.value = rightValue at value
        cases leftValue with
        | none =>
            cases rightValue with
            | none => exact .none
            | some leaf => cases value
        | some leaf =>
            cases rightValue with
            | none => cases value
            | some other => exact .some (Leaf.alike_of_beq value)
      · exact forall₂_imp_of_mem children fun child isChild other same =>
          childHypothesis child isChild same

/-! ## One node -/

namespace Alike

variable {same : Decimal -> Decimal -> Prop} {left right : Tree}

theorem tag_eq (alike : left.Alike same right) : left.tag = right.tag := by
  cases alike with
  | node tag => exact tag

theorem type_eq (alike : left.Alike same right) : left.type = right.type := by
  cases alike with
  | node _ type => exact type

theorem text_eq (alike : left.Alike same right) : left.text = right.text := by
  cases alike with
  | node _ _ text => exact text

theorem value_rel (alike : left.Alike same right) :
    Option.Rel (Leaf.Alike same) left.value right.value := by
  cases alike with
  | node _ _ _ value => exact value

theorem children_rel (alike : left.Alike same right) :
    List.Forall₂ (Tree.Alike same) left.children right.children := by
  cases alike with
  | node _ _ _ _ children => exact children

theorem isSome_value (alike : left.Alike same right) :
    left.value.isSome = right.value.isSome := by
  have related := alike.value_rel
  generalize left.value = leaf, right.value = other at related
  cases related <;> rfl

theorem isEmpty_children (alike : left.Alike same right) :
    left.children.isEmpty = right.children.isEmpty := by
  have related := alike.children_rel
  generalize left.children = children, right.children = others at related
  cases related <;> rfl

theorem isPlaceholder_eq (alike : left.Alike same right) :
    left.isPlaceholder = right.isPlaceholder := by
  rw [isPlaceholder, isPlaceholder, alike.tag_eq, alike.type_eq, ← Option.not_isSome,
    ← Option.not_isSome, alike.isSome_value]

/-! ## The check of a node -/

theorem operandDefect?_unnamed
    (alike : left.Alike same right)
    (position : Nat)
    (slot : Slot) :
    (operandDefect? position slot left).map Defect.unnamed =
      (operandDefect? position slot right).map Defect.unnamed := by
  unfold operandDefect?
  rw [alike.type_eq, alike.tag_eq, alike.isPlaceholder_eq]
  split <;> rfl

/-- Operands that are alike have the same first defect in the same slots. -/
theorem operandsDefect?_unnamed
    {operands others : List (Slot × Tree)}
    (alike : List.Forall₂ (fun operand other =>
      operand.1 = other.1 ∧ operand.2.Alike same other.2) operands others)
    (position : Nat) :
    (operandsDefect? position operands).map Defect.unnamed =
      (operandsDefect? position others).map Defect.unnamed := by
  induction alike generalizing position with
  | nil => rfl
  | @cons operand other rest others first _ restHypothesis =>
      rcases operand with ⟨slot, operand⟩
      rcases other with ⟨_, other⟩
      obtain ⟨rfl, alike⟩ := first
      rw [operandsDefect?, operandsDefect?, Option.map_or, Option.map_or,
        alike.operandDefect?_unnamed, restHypothesis]

/-- Operands that are alike go into the same slots. -/
theorem zip_slots
    {operands others : List Tree}
    (alike : List.Forall₂ (Tree.Alike same) operands others)
    (slots : List Slot) :
    List.Forall₂ (fun operand other => operand.1 = other.1 ∧ operand.2.Alike same other.2)
      (slots.zip operands) (slots.zip others) := by
  induction alike generalizing slots with
  | nil => simp
  | cons first _ restHypothesis =>
      cases slots with
      | nil => exact .nil
      | cons slot slots => exact .cons ⟨rfl, first⟩ (restHypothesis slots)

theorem signatureDefect?_unnamed
    (alike : left.Alike same right)
    (signature : Signature) :
    (left.signatureDefect? signature).map Defect.unnamed =
      (right.signatureDefect? signature).map Defect.unnamed := by
  have counted := alike.children_rel.length_eq
  cases signature with
  | leaf kind =>
      rw [signatureDefect?, signatureDefect?, alike.isEmpty_children]
      split
      · rfl
      · have related := alike.value_rel
        generalize left.value = leaf, right.value = other at related
        cases related with
        | none => rfl
        | some leaf => simp only [leaf.kind]
  | fixed slots =>
      rw [signatureDefect?, signatureDefect?, counted]
      split
      · rfl
      · exact operandsDefect?_unnamed (zip_slots alike.children_rel slots) 0
  | variadic slot least =>
      rw [signatureDefect?, signatureDefect?, counted]
      split
      · rfl
      · apply operandsDefect?_unnamed
        rw [List.forall₂_map_left_iff, List.forall₂_map_right_iff]
        exact alike.children_rel.imp fun _ _ operand => ⟨rfl, operand⟩

/-- Nodes that are alike have the same first defect. -/
theorem defect?_unnamed (alike : left.Alike same right) :
    left.defect?.map Defect.unnamed = right.defect?.map Defect.unnamed := by
  unfold defect?
  rw [alike.type_eq, alike.tag_eq, alike.isSome_value, alike.isPlaceholder_eq,
    alike.isEmpty_children]
  split
  · rfl
  · split
    · rfl
    · split
      · rfl
      · exact alike.signatureDefect?_unnamed _

theorem fault?_unnamed (alike : left.Alike same right) :
    left.fault?.map TreeError.unnamed = right.fault?.map TreeError.unnamed := by
  have named (node : Tree) :
      node.fault?.map TreeError.unnamed =
        (node.defect?.map Defect.unnamed).map (.invalid "" node.tag) := by
    rw [fault?, Option.map_map, Option.map_map]
    rfl
  rw [named, named, alike.defect?_unnamed, alike.tag_eq]

/-- Nodes that are alike are to blame for the same. -/
theorem blame?_unnamed (alike : left.Alike same right) :
    left.blame?.map TreeError.unnamed = right.blame?.map TreeError.unnamed := by
  unfold blame?
  rw [alike.isPlaceholder_eq]
  split
  · change some (TreeError.incomplete "" left.tag) = some (.incomplete "" right.tag)
    rw [alike.tag_eq]
  · exact alike.fault?_unnamed

/-! ## All nodes -/

/-- The first error among nodes that are alike is the same, if it is for each of them. -/
theorem findSome?_unnamed
    {errorOf? : Tree -> Option TreeError}
    {nodes others : List Tree}
    (alike : List.Forall₂ (Tree.Alike same) nodes others)
    (agrees : ∀ left right : Tree, left.Alike same right ->
      (errorOf? left).map TreeError.unnamed = (errorOf? right).map TreeError.unnamed) :
    (nodes.findSome? errorOf?).map TreeError.unnamed =
      (others.findSome? errorOf?).map TreeError.unnamed := by
  induction alike with
  | nil => rfl
  | @cons node other nodes others first _ restHypothesis =>
      have here := agrees node other first
      rw [List.findSome?_cons, List.findSome?_cons]
      cases found : errorOf? node with
      | none =>
          rw [found, Option.map_none, eq_comm, Option.map_eq_none_iff] at here
          rw [here]
          exact restHypothesis
      | some error =>
          rw [found, Option.map_some, eq_comm, Option.map_eq_some_iff] at here
          obtain ⟨otherError, otherFound, equal⟩ := here
          rw [otherFound, Option.map_some, Option.map_some, equal]

theorem preorder_rel (alike : left.Alike same right) :
    List.Forall₂ (Tree.Alike same) left.preorder right.preorder := by
  induction left using childInduction generalizing right with
  | step left childHypothesis =>
      rw [preorder_eq, preorder_eq, preorderAll_eq_flatMap, preorderAll_eq_flatMap]
      refine .cons alike ?_
      have below := (List.forall₂_and_left left.children right.children).2
        ⟨fun _ isChild => isChild, alike.children_rel⟩
      exact List.rel_flatMap below fun child other both => childHypothesis child both.1 both.2

theorem reading_rel (alike : left.Alike same right) :
    List.Forall₂ (Tree.Alike same) left.reading right.reading := by
  induction left using childInduction generalizing right with
  | step left childHypothesis =>
      have operands : List.Forall₂ (List.Forall₂ (Tree.Alike same)) (readings left.children)
          (readings right.children) := by
        rw [readings_eq_map, readings_eq_map, List.forall₂_map_left_iff,
          List.forall₂_map_right_iff]
        exact forall₂_imp_of_mem alike.children_rel fun child isChild other alike =>
          childHypothesis child isChild alike
      have order : left.readsFirstTwoLast = right.readsFirstTwoLast := by
        rw [readsFirstTwoLast, readsFirstTwoLast, alike.type_eq, alike.tag_eq]
      rw [reading_eq, reading_eq, readingBelow, readingBelow, order]
      refine .cons alike ?_
      split
      · apply List.rel_flatten
        exact List.rel_append (List.forall₂_drop 2 operands) (List.forall₂_take 2 operands)
      · exact List.rel_flatten operands

/-- Of trees that are alike the same is reported when they are read. -/
theorem firstBlame?_reading (alike : left.Alike same right) :
    (firstBlame? left.reading).map TreeError.unnamed =
      (firstBlame? right.reading).map TreeError.unnamed :=
  findSome?_unnamed alike.reading_rel fun _ _ nodes => nodes.blame?_unnamed

theorem validate_iff (alike : left.Alike same right) :
    left.validate = .ok () ↔ right.validate = .ok () := by
  have sameFault := findSome?_unnamed alike.preorder_rel fun _ _ nodes => nodes.fault?_unnamed
  rw [validate, validate, verdict_eq_ok_iff, verdict_eq_ok_iff, walk_eq_preorder,
    walk_eq_preorder, ← Option.map_eq_none_iff (f := TreeError.unnamed), sameFault,
    Option.map_eq_none_iff]

theorem isComplete_eq (alike : left.Alike same right) :
    left.isComplete = right.isComplete := by
  rw [isComplete, isComplete, walk_eq_preorder, walk_eq_preorder]
  have nodes := alike.preorder_rel
  generalize left.preorder = front, right.preorder = back at nodes
  induction nodes with
  | nil => rfl
  | cons first _ restHypothesis =>
      rw [List.all_cons, List.all_cons, first.isPlaceholder_eq, restHypothesis]

end Alike
end Tree
end ContingentClaims
