import ContingentClaims.Decoding
import Mathlib.Data.List.Forall2

/-!
# Nodes without defect

What it means for a node to pass the grammar, in terms of the slots of its
signature. The table of defects reports what is wrong with a node; the statements
here say what the node looks like if nothing is wrong: it is an open slot without
children, or it carries a tag of its type and its operands fit the signature, or it
is a value node with a leaf of the kind in its tag.
-/

namespace ContingentClaims

/-! ## Operands in their slots -/

namespace LeafKind

theorem tag_of_ofTag?
    {text : String}
    {kind : LeafKind}
    (found : ofTag? text = some kind) :
    kind.tag = text := by
  simpa using List.find?_some found

/-- Different kinds of leaves have different tags. -/
theorem tag_inj
    {left right : LeafKind} :
    left.tag = right.tag ↔ left = right := by
  constructor
  · intro equal
    have found := ofTag?_tag left
    rw [equal, ofTag?_tag] at found
    exact (Option.some.inj found).symm
  · exact congrArg tag

end LeafKind

namespace Slot

/-- Whether a node may occupy a slot depends on its tag, its type and its leaf. -/
theorem accepts_congr
    {slot : Slot}
    {left right : Tree}
    (sameTag : left.tag = right.tag)
    (sameType : left.type = right.type)
    (sameValue : left.value = right.value) :
    slot.accepts left = slot.accepts right := by
  simp only [accepts, Tree.isPlaceholder, sameTag, sameType, sameValue]

/-- A node in a slot has the type of the slot. -/
theorem type_of_accepts
    {slot : Slot}
    {node : Tree}
    (accepted : slot.accepts node = true) :
    node.type = slot.type := by
  simp only [accepts, Bool.and_eq_true, beq_iff_eq] at accepted
  exact accepted.1

/-- A node in the slot of a leaf has the tag of that leaf, unless it is open. -/
theorem tag_of_accepts_leaf
    {kind : LeafKind}
    {node : Tree}
    (accepted : (leaf kind).accepts node = true)
    (filled : node.isPlaceholder = false) :
    node.tag = kind.tag := by
  simp only [accepts, filled, Bool.false_or, Bool.and_eq_true, beq_iff_eq] at accepted
  exact accepted.2

@[simp] theorem accepts_claim_iff (node : Tree) :
    claim.accepts node = true ↔ node.type = .claim := by
  simp [accepts, type]

@[simp] theorem accepts_observation_iff (node : Tree) :
    observation.accepts node = true ↔ node.type = .observation := by
  simp [accepts, type]

@[simp] theorem accepts_inequality_iff (node : Tree) :
    inequality.accepts node = true ↔ node.type = .inequality := by
  simp [accepts, type]

end Slot

namespace Signature

/-- Operands as a signature asks for them. -/
def Fits : Signature -> List Tree -> Prop
  | fixed slots, operands =>
      List.Forall₂ (fun slot operand => slot.accepts operand = true) slots operands
  | variadic slot least, operands =>
      least ≤ operands.length ∧ ∀ operand ∈ operands, slot.accepts operand = true
  | leaf _, operands => operands = []

@[simp] theorem fits_fixed
    (slots : List Slot)
    (operands : List Tree) :
    (fixed slots).Fits operands ↔
      List.Forall₂ (fun slot operand => slot.accepts operand = true) slots operands :=
  Iff.rfl

/-- Operands that fit one slot. -/
theorem fits_one
    (slot : Slot)
    (operands : List Tree) :
    (fixed [slot]).Fits operands ↔
      ∃ operand, slot.accepts operand = true ∧ operands = [operand] := by
  simp [List.forall₂_cons_left_iff]

/-- Operands that fit two slots. -/
theorem fits_two
    (first second : Slot)
    (operands : List Tree) :
    (fixed [first, second]).Fits operands ↔
      ∃ left right, first.accepts left = true ∧ second.accepts right = true ∧
        operands = [left, right] := by
  simp only [fits_fixed, List.forall₂_cons_left_iff, List.forall₂_nil_left_iff]
  constructor
  · rintro ⟨left, _, leftFits, ⟨right, _, rightFits, rfl, rfl⟩, rfl⟩
    exact ⟨left, right, leftFits, rightFits, rfl⟩
  · rintro ⟨left, right, leftFits, rightFits, rfl⟩
    exact ⟨left, _, leftFits, ⟨right, _, rightFits, rfl, rfl⟩, rfl⟩

/-- Operands that fit three slots. -/
theorem fits_three
    (first second third : Slot)
    (operands : List Tree) :
    (fixed [first, second, third]).Fits operands ↔
      ∃ left middle right, first.accepts left = true ∧ second.accepts middle = true ∧
        third.accepts right = true ∧ operands = [left, middle, right] := by
  simp only [fits_fixed, List.forall₂_cons_left_iff, List.forall₂_nil_left_iff]
  constructor
  · rintro ⟨left, _, leftFits, ⟨middle, _, middleFits, ⟨right, _, rightFits, rfl, rfl⟩, rfl⟩,
      rfl⟩
    exact ⟨left, middle, right, leftFits, middleFits, rightFits, rfl⟩
  · rintro ⟨left, middle, right, leftFits, middleFits, rightFits, rfl⟩
    exact ⟨left, _, leftFits, ⟨middle, _, middleFits, ⟨right, _, rightFits, rfl, rfl⟩, rfl⟩,
      rfl⟩

@[simp] theorem fits_variadic
    (slot : Slot)
    (least : Nat)
    (operands : List Tree) :
    (variadic slot least).Fits operands ↔
      least ≤ operands.length ∧ ∀ operand ∈ operands, slot.accepts operand = true :=
  Iff.rfl

/-- Operands of a signature that asks for two or more. -/
theorem fits_atLeastTwo
    {slot : Slot}
    {operands : List Tree}
    (fits : (variadic slot 2).Fits operands) :
    ∃ first second others, operands = first :: second :: others := by
  match operands, fits.1 with
  | first :: second :: others, _ => exact ⟨first, second, others, rfl⟩

/-- Only value nodes have a leaf instead of operands. -/
theorem of?_ne_leaf
    {type : NodeType}
    {tag : String}
    (operator : type ≠ .value)
    (kind : LeafKind) :
    of? type tag ≠ some (.leaf kind) := by
  have noClaim (tag : ClaimTag) : tag.signature ≠ .leaf kind := by
    cases tag <;> simp [ClaimTag.signature]
  have noObservation (tag : ObservationTag) : tag.signature ≠ .leaf kind := by
    cases tag <;> simp [ObservationTag.signature]
  have noInequality (tag : InequalityTag) : tag.signature ≠ .leaf kind := by
    cases tag <;> simp [InequalityTag.signature]
  cases type with
  | claim => simp [of?, noClaim]
  | observation => simp [of?, noObservation]
  | inequality => simp [of?, noInequality]
  | value => exact absurd rfl operator

end Signature

/-! ## Nodes that pass -/

namespace Tree

theorem operandDefect?_eq_none_iff
    (position : Nat)
    (slot : Slot)
    (operand : Tree) :
    operandDefect? position slot operand = none ↔ slot.accepts operand = true := by
  unfold operandDefect?
  by_cases typed : operand.type = slot.type
  · cases slot with
    | leaf kind =>
        simp only [Slot.accepts, typed]
        cases operand.isPlaceholder <;> simp
    | claim | observation | inequality => simp [Slot.accepts, typed]
  · simp [Slot.accepts, typed]

theorem operandsDefect?_eq_none_iff
    (position : Nat)
    (operands : List (Slot × Tree)) :
    operandsDefect? position operands = none ↔
      ∀ operand ∈ operands, operand.1.accepts operand.2 = true := by
  induction operands generalizing position with
  | nil => simp [operandsDefect?]
  | cons operand rest restHypothesis =>
      simp [operandsDefect?, operandDefect?_eq_none_iff, restHypothesis]

/-- A node with operands has no defect against its signature if the operands fit. -/
theorem signatureDefect?_eq_none_iff_fits
    {signature : Signature}
    (noLeaf : ∀ kind, signature ≠ .leaf kind)
    (node : Tree) :
    node.signatureDefect? signature = none ↔ signature.Fits node.children := by
  cases signature with
  | fixed slots =>
      simp only [signatureDefect?, Signature.fits_fixed, List.forall₂_iff_zip]
      by_cases counted : node.children.length = slots.length
      · simp [counted, operandsDefect?_eq_none_iff]
      · simp [counted, Ne.symm counted]
  | variadic slot least =>
      simp only [signatureDefect?, Signature.fits_variadic]
      by_cases counted : node.children.length < least
      · simp [counted, Nat.not_le_of_lt counted]
      · simp [counted, operandsDefect?_eq_none_iff, Nat.le_of_not_lt counted]
  | leaf kind => exact absurd rfl (noLeaf kind)

/-- A claim, an observation or an inequality that is no open slot passes if it has
a signature and its operands fit. -/
theorem defect?_eq_none_iff_of_operator
    {node : Tree}
    (operator : node.type ≠ .value)
    (filled : node.isPlaceholder = false) :
    node.defect? = none ↔
      node.value = none ∧
        ∃ signature, Signature.of? node.type node.tag = some signature ∧
          signature.Fits node.children := by
  unfold defect?
  cases value : node.value with
  | some leaf => simp [operator]
  | none =>
      cases known : Signature.of? node.type node.tag with
      | none => simp [filled]
      | some signature =>
          have noLeaf (kind : LeafKind) : signature ≠ .leaf kind := by
            intro equal
            exact Signature.of?_ne_leaf operator kind (equal ▸ known)
          simp [filled, signatureDefect?_eq_none_iff_fits noLeaf]

/-- A value node that is no open slot passes if it carries a leaf of the kind in
its tag and has no children. -/
theorem defect?_eq_none_iff_of_value
    {node : Tree}
    (typed : node.type = .value)
    (filled : node.isPlaceholder = false) :
    node.defect? = none ↔
      node.children = [] ∧ ∃ leaf, node.value = some leaf ∧ node.tag = leaf.tag := by
  unfold defect?
  simp only [typed, filled, ne_eq, not_true_eq_false, false_and, if_false,
    Bool.false_eq_true, Signature.of?]
  cases known : LeafKind.ofTag? node.tag with
  | none =>
      have unknown (leaf : Leaf) : node.tag ≠ leaf.tag := by
        intro equal
        simp [equal, Leaf.tag] at known
      simp [unknown]
  | some kind =>
      have named (leaf : Leaf) : node.tag = leaf.tag ↔ leaf.kind = kind := by
        rw [← LeafKind.tag_of_ofTag? known, Leaf.tag, eq_comm, LeafKind.tag_inj]
      simp only [Option.map_some, signatureDefect?, named]
      cases children : node.children with
      | cons first rest => simp
      | nil =>
          cases value : node.value with
          | none => simp
          | some leaf => simp

/-- An open slot passes if it has no children and carries no leaf. -/
theorem defect?_eq_none_iff_of_placeholder
    {node : Tree}
    (hole : node.isPlaceholder = true) :
    node.defect? = none ↔ node.children = [] ∧ node.value = none := by
  have bare : node.type = .value -> node.value = none := by
    intro typed
    simp only [isPlaceholder, typed, Bool.and_eq_true] at hole
    simpa using hole.2
  unfold defect?
  by_cases typed : node.type = .value
  · simp [typed, hole, bare typed]
  · cases node.value <;> simp [typed, hole]

/-! ## Nodes of terms -/

@[simp] theorem isPlaceholder_claimTag
    (tag : ClaimTag)
    (id : NodeId)
    (children : List Tree)
    (text : Option String)
    (value : Option Leaf) :
    (⟨id, tag.name, .claim, children, text, value⟩ : Tree).isPlaceholder = false := by
  cases tag <;> simp [isPlaceholder, ClaimTag.name, NodeType.name]

@[simp] theorem isPlaceholder_observationTag
    (tag : ObservationTag)
    (id : NodeId)
    (children : List Tree)
    (text : Option String)
    (value : Option Leaf) :
    (⟨id, tag.name, .observation, children, text, value⟩ : Tree).isPlaceholder = false := by
  cases tag <;> simp [isPlaceholder, ObservationTag.name, NodeType.name]

@[simp] theorem isPlaceholder_inequalityTag
    (tag : InequalityTag)
    (id : NodeId)
    (children : List Tree)
    (text : Option String)
    (value : Option Leaf) :
    (⟨id, tag.name, .inequality, children, text, value⟩ : Tree).isPlaceholder = false := by
  cases tag <;> simp [isPlaceholder, InequalityTag.name, NodeType.name]

/-- A node of a type whose signatures are listed by tags passes, if it is no open slot,
when it has one of these tags, operands that fit the tag, and no leaf. -/
theorem defect?_eq_none_iff_of_table
    {Tag : Type}
    {ofName? : String -> Option Tag}
    {name : Tag -> String}
    {signature : Tag -> Signature}
    {node : Tree}
    (table : Signature.of? node.type node.tag = (ofName? node.tag).map signature)
    (named : ∀ tag, ofName? (name tag) = some tag)
    (name_of : ∀ {text tag}, ofName? text = some tag -> name tag = text)
    (operator : node.type ≠ .value)
    (filled : node.isPlaceholder = false) :
    node.defect? = none ↔
      node.value = none ∧ ∃ tag, node.tag = name tag ∧ (signature tag).Fits node.children := by
  rw [defect?_eq_none_iff_of_operator operator filled, table]
  constructor
  · rintro ⟨bare, listed, known, fits⟩
    obtain ⟨tag, found, rfl⟩ := Option.map_eq_some_iff.1 known
    exact ⟨bare, tag, (name_of found).symm, fits⟩
  · rintro ⟨bare, tag, tagged, fits⟩
    exact ⟨bare, signature tag, by rw [tagged, named, Option.map_some], fits⟩

theorem defect?_eq_none_iff_of_claim
    {node : Tree}
    (typed : node.type = .claim)
    (filled : node.isPlaceholder = false) :
    node.defect? = none ↔
      node.value = none ∧
        ∃ tag : ClaimTag, node.tag = tag.name ∧ tag.signature.Fits node.children := by
  have operator : node.type ≠ .value := by simp [typed]
  apply defect?_eq_none_iff_of_table _ ClaimTag.ofName?_name ClaimTag.name_of_ofName?
    operator filled
  rw [typed, Signature.of?]

theorem defect?_eq_none_iff_of_observation
    {node : Tree}
    (typed : node.type = .observation)
    (filled : node.isPlaceholder = false) :
    node.defect? = none ↔
      node.value = none ∧
        ∃ tag : ObservationTag, node.tag = tag.name ∧ tag.signature.Fits node.children := by
  have operator : node.type ≠ .value := by simp [typed]
  apply defect?_eq_none_iff_of_table _ ObservationTag.ofName?_name
    ObservationTag.name_of_ofName? operator filled
  rw [typed, Signature.of?]

theorem defect?_eq_none_iff_of_inequality
    {node : Tree}
    (typed : node.type = .inequality)
    (filled : node.isPlaceholder = false) :
    node.defect? = none ↔
      node.value = none ∧
        ∃ tag : InequalityTag, node.tag = tag.name ∧ tag.signature.Fits node.children := by
  have operator : node.type ≠ .value := by simp [typed]
  apply defect?_eq_none_iff_of_table _ InequalityTag.ofName?_name
    InequalityTag.name_of_ofName? operator filled
  rw [typed, Signature.of?]

/-! ## Nodes that can be read -/

/-- A node can be read as a term of a type if it has this type, is no open slot,
and passes the grammar. -/
theorem prepare_eq_ok_iff
    (node : Tree)
    (expected : NodeType) :
    node.prepare expected = .ok () ↔
      node.type = expected ∧ node.isPlaceholder = false ∧ node.defect? = none := by
  unfold prepare
  by_cases typed : node.type = expected
  · cases hole : node.isPlaceholder with
    | true => simp [typed]
    | false => simp [typed, check, verdict_eq_ok_iff, fault?_eq_none_iff]
  · simp [typed]

end Tree
end ContingentClaims
