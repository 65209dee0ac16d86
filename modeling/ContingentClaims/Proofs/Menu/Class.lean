import ContingentClaims.Proofs.Decoding.Parts
import ContingentClaims.Proofs.Text.Literals
import ContingentClaims.Proofs.Tree.Children

/-!
# Claims made with the menus

The class of terms that the menus and typed input can express, and the trees from
which terms of this class are read. Whether a tree is of this kind can be told node
by node, from the tag, the number of children and the leaf of a node.
-/

namespace ContingentClaims

/-! ## The class of terms -/

/-- No observation on a given day, and trimmed keys only. -/
def Observation.IsMenuMade : Observation -> Prop
  | const _ => True
  | observe key => Text.IsTrimmed key
  | observeAt _ _ => False
  | add left right => left.IsMenuMade ∧ right.IsMenuMade
  | neg operand => operand.IsMenuMade
  | mul left right => left.IsMenuMade ∧ right.IsMenuMade
  | div left right => left.IsMenuMade ∧ right.IsMenuMade

/-- No upper bound on time. -/
def Inequality.IsMenuMade : Inequality -> Prop
  | timeGte _ => True
  | timeLte _ => False
  | lte left right => left.IsMenuMade ∧ right.IsMenuMade

mutual

/-- Conjunctions and choices of exactly two operands, and assets without a version
that are trimmed. -/
def Claim.IsMenuMade : Claim -> Prop
  | .zero => True
  | .one asset => asset.version = none ∧ Text.IsTrimmed asset.id
  | .give claim => claim.IsMenuMade
  | .and first second others => others = [] ∧ first.IsMenuMade ∧ second.IsMenuMade
  | .or first second others => others = [] ∧ first.IsMenuMade ∧ second.IsMenuMade
  | .cond predicate success failure =>
      predicate.IsMenuMade ∧ success.IsMenuMade ∧ failure.IsMenuMade
  | .scale factor claim => factor.IsMenuMade ∧ claim.IsMenuMade
  | .whenHolds predicate claim => predicate.IsMenuMade ∧ claim.IsMenuMade
  | .untilHolds predicate claim => predicate.IsMenuMade ∧ claim.IsMenuMade
  | .anytime predicate electable => predicate.IsMenuMade ∧ electable.IsMenuMade
termination_by structural claim => claim

/-- Any label, on a claim of the class. -/
def Electable.IsMenuMade : Electable -> Prop
  | .mk _ claim => claim.IsMenuMade
termination_by structural electable => electable

end

/-! ## Nodes of such trees -/

namespace Tree

/-- A tag that the menus offer, with two operands if the number of operands is free. -/
def hasMenuTag (node : Tree) : Bool :=
  match node.type with
  | .claim =>
      (node.tag != ClaimTag.and.name && node.tag != ClaimTag.or.name) ||
        node.children.length == 2
  | .observation => node.tag != ObservationTag.observeAt.name
  | .inequality => node.tag != InequalityTag.timeLte.name
  | .value => true

/-- A node as the menus and typed input leave it. -/
structure IsMenuNode (node : Tree) : Prop where
  /-- The tag is one that the menus offer. -/
  tagged : node.hasMenuTag = true
  /-- A leaf is one that can be typed. -/
  typed : ∀ leaf, node.value = some leaf -> leaf.IsTyped

/-- Every node is as the menus and typed input leave it. -/
def IsMenuMade (tree : Tree) : Prop :=
  ∀ node ∈ tree.preorder, node.IsMenuNode

theorem isMenuMade_iff (tree : Tree) :
    tree.IsMenuMade ↔ tree.IsMenuNode ∧ ∀ child ∈ tree.children, child.IsMenuMade :=
  forall_mem_preorder_iff IsMenuNode tree

/-- Neither the identifier nor the text matters, nor the children but for their
number. -/
theorem isMenuNode_congr
    {left right : Tree}
    (made : left.IsMenuNode)
    (sameTag : left.tag = right.tag)
    (sameType : left.type = right.type)
    (sameWidth : left.children.length = right.children.length)
    (sameValue : left.value = right.value) :
    right.IsMenuNode := by
  obtain ⟨tagged, typed⟩ := made
  refine ⟨?_, ?_⟩
  · rw [← tagged]
    simp only [hasMenuTag, sameTag, sameType, sameWidth]
  · rw [← sameValue]
    exact typed

/-- The leaf that is read from a node is one that can be typed. -/
theorem isTyped_of_leaf
    {node : Tree}
    {leaf : Leaf}
    (made : node.IsMenuMade)
    (read : node.leaf = .ok leaf) :
    leaf.IsTyped := by
  obtain ⟨_, _, _, carries⟩ := (leaf_eq_ok_iff node leaf).1 read
  exact ((isMenuMade_iff node).1 made).1.typed leaf carries

/-- What is read from such a tree as an observation is in the class. -/
theorem isMenuMade_of_decodeObservation
    {node : Tree}
    {observation : Observation}
    (made : node.IsMenuMade)
    (read : node.decodeObservation = .ok observation) :
    observation.IsMenuMade := by
  induction node using childInduction generalizing observation with
  | step node childHypothesis =>
      obtain ⟨nodeMade, childrenMade⟩ := (isMenuMade_iff node).1 made
      have operandMade {operand : Tree} {part : Observation}
          (isChild : operand ∈ node.children)
          (operandRead : operand.decodeObservation = .ok part) : part.IsMenuMade :=
        childHypothesis operand isChild (childrenMade operand isChild) operandRead
      cases (decodeObservation_eq_ok_iff node observation).1 read with
      | const numberRead => trivial
      | @observe _ _ keyNode key keyRead =>
          have leafRead := (decodeKey_eq_ok_iff keyNode key).1 keyRead
          exact isTyped_of_leaf (childrenMade keyNode (by simp)) leafRead
      | observeAt keyRead dateRead =>
          have tagged := nodeMade.tagged
          simp [hasMenuTag] at tagged
      | add leftRead rightRead =>
          have leftMade := operandMade (by simp) leftRead
          have rightMade := operandMade (by simp) rightRead
          split
          · exact ⟨leftMade, rightMade⟩
          · exact ⟨leftMade, rightMade⟩
      | sub leftRead rightRead =>
          have leftMade := operandMade (by simp) leftRead
          have rightMade := operandMade (by simp) rightRead
          exact ⟨leftMade, rightMade⟩
      | neg operandRead =>
          have negatedMade := operandMade (by simp) operandRead
          exact negatedMade
      | mul leftRead rightRead =>
          have leftMade := operandMade (by simp) leftRead
          have rightMade := operandMade (by simp) rightRead
          exact ⟨leftMade, rightMade⟩
      | div leftRead rightRead =>
          have leftMade := operandMade (by simp) leftRead
          have rightMade := operandMade (by simp) rightRead
          exact ⟨leftMade, rightMade⟩

/-- What is read from such a tree as an inequality is in the class. -/
theorem isMenuMade_of_decodeInequality
    {node : Tree}
    {inequality : Inequality}
    (made : node.IsMenuMade)
    (read : node.decodeInequality = .ok inequality) :
    inequality.IsMenuMade := by
  obtain ⟨nodeMade, childrenMade⟩ := (isMenuMade_iff node).1 made
  cases (decodeInequality_eq_ok_iff node inequality).1 read with
  | timeGte dateRead => trivial
  | timeLte dateRead =>
      have tagged := nodeMade.tagged
      simp [hasMenuTag] at tagged
  | @lte _ _ leftNode rightNode _ _ leftRead rightRead =>
      have leftMade := isMenuMade_of_decodeObservation (childrenMade leftNode (by simp)) leftRead
      have rightMade :=
        isMenuMade_of_decodeObservation (childrenMade rightNode (by simp)) rightRead
      exact ⟨leftMade, rightMade⟩

/-- What is read from such a tree as a claim is in the class. -/
theorem isMenuMade_of_decodeClaim
    {node : Tree}
    {claim : Claim}
    (made : node.IsMenuMade)
    (read : node.decodeClaim = .ok claim) :
    claim.IsMenuMade := by
  induction node using childInduction generalizing claim with
  | step node childHypothesis =>
      obtain ⟨nodeMade, childrenMade⟩ := (isMenuMade_iff node).1 made
      have operandMade {operand : Tree} {part : Claim}
          (isChild : operand ∈ node.children)
          (operandRead : operand.decodeClaim = .ok part) : part.IsMenuMade :=
        childHypothesis operand isChild (childrenMade operand isChild) operandRead
      have predicateMade {operand : Tree} {part : Inequality}
          (isChild : operand ∈ node.children)
          (operandRead : operand.decodeInequality = .ok part) : part.IsMenuMade :=
        isMenuMade_of_decodeInequality (childrenMade operand isChild) operandRead
      have alternativeMade {operand : Tree} {part : Electable}
          (isChild : operand ∈ node.children)
          (reads : operand.ReadsAs part) : part.IsMenuMade := by
        rcases part with ⟨label, claim⟩
        exact operandMade isChild reads.2
      cases (decodeClaim_eq_ok_iff node claim).1 read with
      | zero => trivial
      | @one _ _ assetNode asset assetRead =>
          have leafRead := (decodeAsset_eq_ok_iff assetNode asset).1 assetRead
          exact isTyped_of_leaf (childrenMade assetNode (by simp)) leafRead
      | give operandRead =>
          have givenMade := operandMade (by simp) operandRead
          exact givenMade
      | @and _ _ _ _ otherNodes _ _ others firstRead secondRead othersRead =>
          have tagged := nodeMade.tagged
          obtain rfl : otherNodes = [] := by simpa [hasMenuTag] using tagged
          have none : others = [] := by
            simpa using (decodeClaims_eq_ok_iff [] others).1 othersRead
          have firstMade := operandMade (by simp) firstRead
          have secondMade := operandMade (by simp) secondRead
          exact ⟨none, firstMade, secondMade⟩
      | @or _ _ _ _ otherNodes _ _ others firstReads secondReads othersRead =>
          have tagged := nodeMade.tagged
          obtain rfl : otherNodes = [] := by simpa [hasMenuTag] using tagged
          have none : others = [] := by
            simpa using (decodeElectables_eq_ok_iff [] others).1 othersRead
          have firstMade := alternativeMade (by simp) firstReads
          have secondMade := alternativeMade (by simp) secondReads
          exact ⟨none, firstMade, secondMade⟩
      | cond predicateRead successRead failureRead =>
          have conditionMade := predicateMade (by simp) predicateRead
          have successMade := operandMade (by simp) successRead
          have failureMade := operandMade (by simp) failureRead
          exact ⟨conditionMade, successMade, failureMade⟩
      | @scale _ _ factorNode _ _ _ factorRead claimRead =>
          have factorMade :=
            isMenuMade_of_decodeObservation (childrenMade factorNode (by simp)) factorRead
          have claimMade := operandMade (by simp) claimRead
          exact ⟨factorMade, claimMade⟩
      | whenHolds predicateRead claimRead =>
          have conditionMade := predicateMade (by simp) predicateRead
          have claimMade := operandMade (by simp) claimRead
          exact ⟨conditionMade, claimMade⟩
      | untilHolds predicateRead claimRead =>
          have conditionMade := predicateMade (by simp) predicateRead
          have claimMade := operandMade (by simp) claimRead
          exact ⟨conditionMade, claimMade⟩
      | anytime predicateRead reads =>
          have conditionMade := predicateMade (by simp) predicateRead
          have claimMade := alternativeMade (by simp) reads
          exact ⟨conditionMade, claimMade⟩

end Tree
end ContingentClaims
