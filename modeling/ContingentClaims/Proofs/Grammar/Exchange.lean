import ContingentClaims.Proofs.Grammar.Operands
import ContingentClaims.Proofs.Tree.Context

/-!
# Exchanging a node of a valid tree

A tree passes the grammar if no node has a defect. Whether a node has a defect
depends on its children only through the slots that they occupy, so a node of a
valid tree may be exchanged for any valid tree that its slot accepts
(`grammatical_plug`).
-/

namespace ContingentClaims

/-! ## Valid trees -/

namespace Tree

/-- No node of the tree has a defect. -/
def Grammatical (tree : Tree) : Prop :=
  ∀ node ∈ tree.preorder, node.defect? = none

/-- The check of a whole tree decides whether it passes the grammar. -/
theorem isValid_iff (tree : Tree) : tree.isValid = true ↔ tree.Grammatical := by
  rw [Grammatical, ← validate_eq_ok_iff, isValid]
  cases tree.validate with
  | ok result => simp [Except.isOk, Except.toBool]
  | error error => simp [Except.isOk, Except.toBool]

theorem grammatical_iff (tree : Tree) :
    tree.Grammatical ↔ tree.defect? = none ∧ ∀ child ∈ tree.children, child.Grammatical :=
  forall_mem_preorder_iff (fun node => node.defect? = none) tree

/-- Neither the identifier nor the text of a node matters to the grammar. -/
theorem defect?_congr
    {left right : Tree}
    (sameTag : left.tag = right.tag)
    (sameType : left.type = right.type)
    (sameChildren : left.children = right.children)
    (sameValue : left.value = right.value) :
    left.defect? = right.defect? := by
  rcases left with ⟨leftId, tag, type, children, leftText, value⟩
  rcases right with ⟨rightId, _, _, _, rightText, _⟩
  subst sameTag sameType sameChildren sameValue
  have sameSignatureDefect (signature : Signature) :
      signatureDefect? ⟨leftId, tag, type, children, leftText, value⟩ signature =
        signatureDefect? ⟨rightId, tag, type, children, rightText, value⟩ signature := by
    cases signature <;> rfl
  simp only [defect?, isPlaceholder, sameSignatureDefect]
  rfl

/-- A node with children that passes is an operator whose operands fit. -/
theorem fits_of_defect?_eq_none
    {node child : Tree}
    (passes : node.defect? = none)
    (isChild : child ∈ node.children) :
    node.type ≠ .value ∧ node.isPlaceholder = false ∧ node.value = none ∧
      ∃ signature, Signature.of? node.type node.tag = some signature ∧
        signature.Fits node.children := by
  have occupied : node.children ≠ [] := List.ne_nil_of_mem isChild
  cases filled : node.isPlaceholder with
  | true =>
      exact absurd ((defect?_eq_none_iff_of_placeholder filled).1 passes).1 occupied
  | false =>
      by_cases typed : node.type = .value
      · exact absurd ((defect?_eq_none_iff_of_value typed filled).1 passes).1 occupied
      · obtain ⟨bare, fits⟩ := (defect?_eq_none_iff_of_operator typed filled).1 passes
        exact ⟨typed, rfl, bare, fits⟩

end Tree

/-! ## One operand among others -/

namespace Signature

/-- The operand at a position fits the slot of this position, and so may any other
node that this slot accepts. -/
theorem exists_slotAt?_of_fits
    {signature : Signature}
    {before behind : List Tree}
    {operand : Tree}
    (fits : signature.Fits (before ++ operand :: behind)) :
    ∃ slot, signature.slotAt? before.length = some slot ∧ slot.accepts operand = true ∧
      ∀ other, slot.accepts other = true -> signature.Fits (before ++ other :: behind) := by
  cases signature with
  | fixed slots =>
      simp only [fits_fixed, slotAt?] at fits ⊢
      induction before generalizing slots with
      | nil =>
          cases fits with
          | cons accepted rest =>
              exact ⟨_, rfl, accepted, fun other accepts => .cons accepts rest⟩
      | cons first before beforeHypothesis =>
          cases fits with
          | cons accepted rest =>
              obtain ⟨slot, found, here, exchange⟩ := beforeHypothesis _ rest
              exact ⟨slot, found, here, fun other accepts =>
                .cons accepted (exchange other accepts)⟩
  | variadic slot least =>
      obtain ⟨enough, accepted⟩ := fits
      refine ⟨slot, rfl, accepted operand (by simp), fun other accepts => ⟨?_, ?_⟩⟩
      · simpa using enough
      · intro node present
        simp only [List.mem_append, List.mem_cons] at present
        rcases present with isBefore | rfl | isBehind
        · exact accepted node (by simp [isBefore])
        · exact accepts
        · exact accepted node (by simp [isBehind])
  | leaf kind => simp [Fits] at fits

end Signature

namespace Frame

/-- The slot of the missing child. -/
def slot? (frame : Frame) : Option Slot :=
  (Signature.of? frame.type frame.tag).bind fun signature => signature.slotAt? frame.position

/-- A parent that passes has a slot for the child, and still passes with any other
child that this slot accepts. -/
theorem exists_slot?_of_passes
    {frame : Frame}
    {child : Tree}
    (passes : (frame.fill child).defect? = none) :
    ∃ slot, frame.slot? = some slot ∧ slot.accepts child = true ∧
      ∀ other, slot.accepts other = true -> (frame.fill other).defect? = none := by
  have isChild : child ∈ (frame.fill child).children := by simp
  obtain ⟨operator, filled, bare, signature, known, fits⟩ :=
    Tree.fits_of_defect?_eq_none passes isChild
  rw [children_fill] at fits
  obtain ⟨slot, found, accepted, exchange⟩ := Signature.exists_slotAt?_of_fits fits
  refine ⟨slot, ?_, accepted, fun other accepts => ?_⟩
  · rw [type_fill, tag_fill] at known
    rw [slot?, known, Option.bind_some, position, found]
  · have stillOperator : (frame.fill other).type ≠ .value := operator
    have stillFilled : (frame.fill other).isPlaceholder = false := filled
    apply (Tree.defect?_eq_none_iff_of_operator stillOperator stillFilled).2
    exact ⟨bare, signature, known, exchange other accepts⟩

end Frame

/-! ## Nodes in their contexts -/

namespace Context

/-- The slot of the missing node; `none` if it is the root. -/
def slot? : Context -> Option Slot
  | [] => none
  | frame :: _ => frame.slot?

/-- Whether the missing node is an alternative. -/
def isElectable : Context -> Bool
  | [] => false
  | frame :: _ =>
      frame.type == .claim &&
        (frame.tag == ClaimTag.or.name ||
          (frame.tag == ClaimTag.anytime.name && frame.position == 1))

/-- A node of a valid tree is valid. -/
theorem grammatical_of_plug
    {context : Context}
    {tree : Tree}
    (valid : (context.plug tree).Grammatical) :
    tree.Grammatical := by
  induction context generalizing tree with
  | nil => exact valid
  | cons frame outer outerHypothesis =>
      obtain ⟨passes, below⟩ := (Tree.grammatical_iff _).1 (outerHypothesis valid)
      exact below tree (by simp)

/-- A node of a valid tree below the root occupies a slot that accepts it. -/
theorem exists_slot?_of_grammatical
    {frame : Frame}
    {outer : Context}
    {tree : Tree}
    (valid : (plug (frame :: outer) tree).Grammatical) :
    ∃ slot, slot? (frame :: outer) = some slot ∧ slot.accepts tree = true := by
  have parentValid : (frame.fill tree).Grammatical := grammatical_of_plug valid
  obtain ⟨passes, below⟩ := (Tree.grammatical_iff _).1 parentValid
  obtain ⟨slot, found, accepted, exchange⟩ := Frame.exists_slot?_of_passes passes
  exact ⟨slot, found, accepted⟩

/-- Only claims are alternatives. -/
theorem isElectable_eq_false
    {context : Context}
    {node : Tree}
    (valid : (context.plug node).Grammatical)
    (noClaim : node.type ≠ .claim) :
    context.isElectable = false := by
  rw [Bool.eq_false_iff]
  intro electable
  cases context with
  | nil => simp [isElectable] at electable
  | cons frame outer =>
      obtain ⟨slot, found, accepted⟩ := exists_slot?_of_grammatical valid
      simp only [isElectable, Bool.and_eq_true, Bool.or_eq_true, beq_iff_eq] at electable
      obtain ⟨isClaim, tagged⟩ := electable
      have isClaimSlot : slot = .claim := by
        rw [slot?, Frame.slot?, isClaim] at found
        rcases tagged with tagged | ⟨tagged, placed⟩
        · simpa [tagged, Signature.of?, ClaimTag.signature, Signature.slotAt?, eq_comm]
            using found
        · simpa [tagged, placed, Signature.of?, ClaimTag.signature, Signature.slotAt?,
            eq_comm] using found
      subst isClaimSlot
      exact noClaim (Slot.type_of_accepts accepted)

/-- A node of a valid tree may be exchanged for a valid tree that fits its slot. -/
theorem grammatical_plug
    {context : Context}
    {tree other : Tree}
    (valid : (context.plug tree).Grammatical)
    (otherValid : other.Grammatical)
    (fits : ∀ slot, context.slot? = some slot -> slot.accepts other = true) :
    (context.plug other).Grammatical := by
  induction context generalizing tree other with
  | nil => exact otherValid
  | cons frame outer outerHypothesis =>
      have parentValid : (frame.fill tree).Grammatical := grammatical_of_plug valid
      obtain ⟨passes, below⟩ := (Tree.grammatical_iff _).1 parentValid
      obtain ⟨slot, found, accepted, exchange⟩ := Frame.exists_slot?_of_passes passes
      refine outerHypothesis valid ?_ ?_
      · rw [Tree.grammatical_iff]
        refine ⟨exchange other (fits slot found), fun child isChild => ?_⟩
        simp only [Frame.children_fill, List.mem_append, List.mem_cons] at isChild
        rcases isChild with isBefore | rfl | isBehind
        · exact below child (by simp [isBefore])
        · exact otherValid
        · exact below child (by simp [isBehind])
      · intro outerSlot outerFound
        cases outer with
        | nil => simp [slot?] at outerFound
        | cons outerFrame rest =>
            have outerValid : (plug (outerFrame :: rest) (frame.fill tree)).Grammatical := valid
            obtain ⟨parentSlot, parentFound, parentAccepted⟩ :=
              exists_slot?_of_grammatical outerValid
            rw [parentFound, Option.some.injEq] at outerFound
            rw [← outerFound, ← parentAccepted]
            exact Slot.accepts_congr rfl rfl rfl

/-- The text on a node does not matter to the grammar. -/
theorem grammatical_plug_withText
    {context : Context}
    {tree : Tree}
    (valid : (context.plug tree).Grammatical)
    (text : String) :
    (context.plug (tree.withText text)).Grammatical := by
  have sameDefect : (tree.withText text).defect? = tree.defect? :=
    Tree.defect?_congr rfl rfl rfl rfl
  have treeValid : (tree.withText text).Grammatical := by
    have passes := grammatical_of_plug valid
    rw [Tree.grammatical_iff] at passes ⊢
    rw [sameDefect]
    exact passes
  apply grammatical_plug valid treeValid
  intro slot found
  cases context with
  | nil => simp [slot?] at found
  | cons frame outer =>
      obtain ⟨parentSlot, parentFound, accepted⟩ := exists_slot?_of_grammatical valid
      rw [parentFound, Option.some.injEq] at found
      rw [← found, ← accepted]
      exact Slot.accepts_congr rfl rfl rfl

end Context
end ContingentClaims
