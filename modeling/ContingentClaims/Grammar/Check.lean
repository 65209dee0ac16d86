import ContingentClaims.Tree.Error
import ContingentClaims.Tree.Traversal

/-!
# Checking trees against the grammar

A node is checked by itself and against the types of its children; a tree is
valid if every node passes. Placeholders pass, so a valid tree may still have
open slots.
-/

namespace ContingentClaims
namespace Tree

/-- The defect of an operand in its slot. -/
def operandDefect?
    (position : Nat)
    (slot : Slot)
    (operand : Tree) : Option Defect :=
  if operand.type ≠ slot.type then
    some (.operandType position slot operand.type operand.id)
  else
    match slot with
    | .leaf kind =>
        if !operand.isPlaceholder && operand.tag != kind.tag then
          some (.operandLeaf position slot operand.tag)
        else
          none
    | _ => none

/-- The first defect of operands in their slots, from a position on. -/
def operandsDefect?
    (position : Nat) : List (Slot × Tree) -> Option Defect
  | [] => none
  | (slot, operand) :: rest =>
      (operandDefect? position slot operand).or (operandsDefect? (position + 1) rest)

/-- The first defect of a node that carries a tag of the grammar. -/
def signatureDefect?
    (node : Tree) : Signature -> Option Defect
  | .leaf kind =>
      if !node.children.isEmpty then
        some .leafWithChildren
      else
        match node.value with
        | some leaf => if leaf.kind = kind then none else some (.wrongLeaf kind leaf.kind)
        | none => some .missingLeaf
  | .fixed slots =>
      if node.children.length ≠ slots.length then
        some (.wrongCount slots.length node.children.length)
      else
        operandsDefect? 0 (slots.zip node.children)
  | .variadic slot least =>
      if node.children.length < least then
        some (.tooFew least node.children.length)
      else
        operandsDefect? 0 (node.children.map (slot, ·))

/-- The first defect of a node, its children's own defects apart. -/
def defect? (node : Tree) : Option Defect :=
  if node.type ≠ .value ∧ node.value.isSome then
    some .strayLeaf
  else if node.isPlaceholder then
    if node.children.isEmpty then none else some .filledPlaceholder
  else
    match Signature.of? node.type node.tag with
    | none => some (.unknownTag node.type)
    | some signature => node.signatureDefect? signature

/-- The error that a node gives rise to by itself. -/
def fault? (node : Tree) : Option TreeError :=
  node.defect?.map (.ofDefect node)

/-- Success, unless there is an error. -/
def verdict : Option TreeError -> Except TreeError Unit
  | some error => .error error
  | none => .ok ()

/-- Check one node. -/
def check (node : Tree) : Except TreeError Unit :=
  verdict node.fault?

/-- Check every node in pre-order; the first error counts. -/
def validate (tree : Tree) : Except TreeError Unit :=
  verdict (tree.walk.findSome? fault?)

/-- Whether every node passes. -/
def isValid (tree : Tree) : Bool :=
  tree.validate.isOk

/-- The slot that a node occupies in its parent; `none` for the root and for an
unknown identifier. -/
def slotOf?
    (root : Tree)
    (id : NodeId) : Option Slot := do
  let (parent, position) <- root.parentOf? id
  let signature <- Signature.of? parent.type parent.tag
  signature.slotAt? position

/-! ## Validity -/

theorem verdict_eq_ok_iff (error? : Option TreeError) :
    verdict error? = .ok () ↔ error? = none := by
  cases error? <;> simp [verdict]

theorem fault?_eq_none_iff (node : Tree) :
    node.fault? = none ↔ node.defect? = none := by
  simp [fault?]

/-- A tree passes exactly if no node has a defect. -/
theorem validate_eq_ok_iff (tree : Tree) :
    tree.validate = .ok () ↔ ∀ node ∈ tree.preorder, node.defect? = none := by
  simp [validate, verdict_eq_ok_iff, walk_eq_preorder, fault?_eq_none_iff]

end Tree
end ContingentClaims
