import ContingentClaims.Proofs.Menu.Class
import ContingentClaims.Proofs.Menu.Skeletons
import ContingentClaims.Proofs.Term.Parts
import ContingentClaims.Proofs.Term.Size
import ContingentClaims.Proofs.Term.Zeros

/-!
# Terms by their operands

A term of the class that the menus express has a primitive template which opens one
slot for each of its operands, and is read from its node as soon as the operands are
read from theirs. Differences need no entry of their own: they are sums whose second operand
is negated.
-/

namespace ContingentClaims

/-! ## Parts -/

namespace Part

/-- The constructors and leaves of a part. -/
def size : Part -> Nat
  | claim term => term.size
  | electable term => term.size
  | observation term => term.size
  | inequality term => term.size
  | leaf _ => 1

/-- Whether a part is in the class that the menus and typed input express. -/
def IsMenuMade : Part -> Prop
  | claim term => term.IsMenuMade
  | electable term => term.IsMenuMade
  | observation term => term.IsMenuMade
  | inequality term => term.IsMenuMade
  | leaf content => content.IsTyped

/-- Whether a part may be an operand at a position of a node: leaves need a slot of
their kind, and alternatives a place that takes labels. -/
def SuitsAt
    (type : NodeType)
    (tag : String)
    (position : Nat) : Part -> Prop
  | electable _ =>
      type = .claim ∧
        (tag = ClaimTag.or.name ∨ tag = ClaimTag.anytime.name ∧ position = 1)
  | leaf content =>
      ((Signature.of? type tag).bind fun signature => signature.slotAt? position) =
        some (.leaf content.kind)
  | _ => True

theorem size_pos (part : Part) : 0 < part.size := by
  cases part with
  | claim term => exact term.size_pos
  | electable term =>
      cases term with
      | mk label claim => exact claim.size_pos
  | observation term => exact term.size_pos
  | inequality term => exact term.size_pos
  | leaf content => exact Nat.one_pos

end Part

/-- A node is read as a part, but for the signs of zeros. -/
def Tree.StandsFor (node : Tree) : Part -> Prop
  | .claim term => node.decodeClaim = .ok term.unsignZeros
  | .electable term => node.ReadsAs term.unsignZeros
  | .observation term => node.decodeObservation = .ok term.unsignZeros
  | .inequality term => node.decodeInequality = .ok term.unsignZeros
  | .leaf content => node.leaf = .ok content.unsignZeros

/-! ## Templates -/

/-- A template that opens one slot of each of some types, under a tag. -/
structure Template.Opens
    (type : NodeType)
    (tag : String)
    (slots : List NodeType)
    (template : Template) : Prop where
  /-- The root is without a text, and its children have the types. -/
  yields :
    ∀ source, ∃ holes,
      (template.run source).1 = ⟨source.peek, tag, type, holes, none, none⟩ ∧
        holes.map (·.type) = slots
  /-- The children are all there is below the root. -/
  counted : ∀ source, (template.run source).1.preorder.length = slots.length + 1

namespace Template

theorem types_holes
    (slots : List NodeType)
    (source : IdSource) :
    ((holes slots).run source).1.map (·.type) = slots := by
  induction slots generalizing source with
  | nil => rfl
  | cons slot rest restHypothesis =>
      change slot :: ((holes rest).run (source.skip 1)).1.map (·.type) = slot :: rest
      rw [restHypothesis]

theorem length_preorderAll_holes
    (slots : List NodeType)
    (source : IdSource) :
    (Tree.preorderAll ((holes slots).run source).1).length = slots.length := by
  induction slots generalizing source with
  | nil => rfl
  | cons slot rest restHypothesis =>
      change (Tree.preorderAll ((holes rest).run (source.skip 1)).1).length + 1 = _
      rw [restHypothesis, List.length_cons]

/-- The template of a constructor opens the slots that it is given. -/
theorem opens_claimOver
    (tag : ClaimTag)
    (slots : List NodeType) :
    (claimOver tag slots).Opens .claim tag.name slots where
  yields source := ⟨_, rfl, types_holes slots (source.skip 1)⟩
  counted source := congrArg (· + 1) (length_preorderAll_holes slots (source.skip 1))

theorem opens_observationOver
    (tag : ObservationTag)
    (slots : List NodeType) :
    (observationOver tag slots).Opens .observation tag.name slots where
  yields source := ⟨_, rfl, types_holes slots (source.skip 1)⟩
  counted source := congrArg (· + 1) (length_preorderAll_holes slots (source.skip 1))

theorem opens_inequalityOver
    (tag : InequalityTag)
    (slots : List NodeType) :
    (inequalityOver tag slots).Opens .inequality tag.name slots where
  yields source := ⟨_, rfl, types_holes slots (source.skip 1)⟩
  counted source := congrArg (· + 1) (length_preorderAll_holes slots (source.skip 1))

end Template

/-- A part with the operands that its constructor has, and a template of a menu by
which its node can be made. -/
structure Part.IsOver
    (part : Part)
    (templates : List Template)
    (tag : String)
    (operands : List Part) : Prop where
  sized : part.size = (operands.map Part.size).sum + 1
  made : ∀ operand ∈ operands, operand.IsMenuMade
  suited :
    ∀ placed ∈ operands.zipIdx, placed.1.SuitsAt part.type tag placed.2
  offered :
    ∃ template ∈ templates, template.Opens part.type tag (operands.map Part.type)
  /-- Only on claims the text does not matter. -/
  read :
    ∀ id text nodes, (part.type ≠ .claim -> text = none) ->
      List.Forall₂ Tree.StandsFor nodes operands ->
        Tree.StandsFor ⟨id, tag, part.type, nodes, text, none⟩ part

open ContingentClaims.Tree ContingentClaims.Template

/-! ## Observations -/

namespace Observation

variable {observation : Observation}

/-- Every observation of the class has a template. -/
theorem offered (made : observation.IsMenuMade) :
    ∃ template ∈ Catalog.formulas,
      template.Opens .observation observation.tag.name
        (observation.operands.map Part.type) := by
  cases observation with
  | const value =>
      exact ⟨.const, by simp [Catalog.formulas], opens_observationOver .const _⟩
  | observe key =>
      exact ⟨.observe, by simp [Catalog.formulas], opens_observationOver .observe _⟩
  | observeAt key date => exact absurd made id
  | add left right =>
      exact ⟨.add, by simp [Catalog.formulas], opens_observationOver .add _⟩
  | neg operand =>
      exact ⟨.neg, by simp [Catalog.formulas], opens_observationOver .neg _⟩
  | mul left right =>
      exact ⟨.mul, by simp [Catalog.formulas], opens_observationOver .mul _⟩
  | div left right =>
      exact ⟨.div, by simp [Catalog.formulas], opens_observationOver .div _⟩

/-- A node without text is read as an observation if its children are read as the
operands. -/
theorem standsFor_of_operands
    {id : NodeId}
    {nodes : List Tree}
    (read : List.Forall₂ StandsFor nodes observation.operands) :
    StandsFor ⟨id, observation.tag.name, .observation, nodes, none, none⟩
      (.observation observation) := by
  cases observation with
  | const value =>
      rcases read with _ | ⟨numberRead, _ | _⟩
      exact decodeObservation_const_eq_ok ((decodeDecimal_eq_ok_iff _ _).2 numberRead)
  | observe key =>
      rcases read with _ | ⟨keyRead, _ | _⟩
      exact decodeObservation_observe_eq_ok ((decodeKey_eq_ok_iff _ _).2 keyRead)
  | observeAt key date =>
      rcases read with _ | ⟨keyRead, _ | ⟨dateRead, _ | _⟩⟩
      exact decodeObservation_observeAt_eq_ok ((decodeKey_eq_ok_iff _ _).2 keyRead)
        ((decodeDate_eq_ok_iff _ _).2 dateRead)
  | add left right =>
      rcases read with _ | ⟨leftRead, _ | ⟨rightRead, _ | _⟩⟩
      exact decodeObservation_add_eq_ok (by simp) leftRead rightRead
  | neg operand =>
      rcases read with _ | ⟨operandRead, _ | _⟩
      exact decodeObservation_neg_eq_ok operandRead
  | mul left right =>
      rcases read with _ | ⟨leftRead, _ | ⟨rightRead, _ | _⟩⟩
      exact decodeObservation_mul_eq_ok leftRead rightRead
  | div left right =>
      rcases read with _ | ⟨leftRead, _ | ⟨rightRead, _ | _⟩⟩
      exact decodeObservation_div_eq_ok leftRead rightRead

theorem isMenuMade_operands (made : observation.IsMenuMade) :
    ∀ operand ∈ observation.operands, operand.IsMenuMade := by
  cases observation with
  | observeAt key date => exact absurd made id
  | _ => simp_all [operands, Part.IsMenuMade, Leaf.IsTyped, IsMenuMade]

theorem suitsAt_operands (observation : Observation) :
    ∀ placed ∈ observation.operands.zipIdx,
      placed.1.SuitsAt .observation observation.tag.name placed.2 := by
  cases observation <;>
    simp [operands, Part.SuitsAt, Signature.of?, tag, ObservationTag.signature,
      Signature.slotAt?, Leaf.kind]

/-- Every observation of the class is made by a template over its operands. -/
theorem isOver (made : observation.IsMenuMade) :
    (Part.observation observation).IsOver Catalog.formulas observation.tag.name
      observation.operands where
  sized := by cases observation <;> rfl
  made := isMenuMade_operands made
  suited := suitsAt_operands observation
  offered := offered made
  read id text nodes bare read := by
    obtain rfl := bare (by simp [Part.type])
    exact standsFor_of_operands read

end Observation

/-! ## Inequalities -/

namespace Inequality

variable {inequality : Inequality}

/-- Every inequality of the class has a template. -/
theorem offered (made : inequality.IsMenuMade) :
    ∃ template ∈ Catalog.conditions,
      template.Opens .inequality inequality.tag.name
        (inequality.operands.map Part.type) := by
  cases inequality with
  | timeGte date =>
      exact ⟨.timeGte, by simp [Catalog.conditions], opens_inequalityOver .timeGte _⟩
  | timeLte date => exact absurd made id
  | lte left right =>
      exact ⟨.lte, by simp [Catalog.conditions], opens_inequalityOver .lte _⟩

/-- A node is read as an inequality if its children are read as the operands. -/
theorem standsFor_of_operands
    {id : NodeId}
    {text : Option String}
    {nodes : List Tree}
    (read : List.Forall₂ StandsFor nodes inequality.operands) :
    StandsFor ⟨id, inequality.tag.name, .inequality, nodes, text, none⟩
      (.inequality inequality) := by
  cases inequality with
  | timeGte date =>
      rcases read with _ | ⟨dateRead, _ | _⟩
      exact decodeInequality_timeGte_eq_ok ((decodeDate_eq_ok_iff _ _).2 dateRead)
  | timeLte date =>
      rcases read with _ | ⟨dateRead, _ | _⟩
      exact decodeInequality_timeLte_eq_ok ((decodeDate_eq_ok_iff _ _).2 dateRead)
  | lte left right =>
      rcases read with _ | ⟨leftRead, _ | ⟨rightRead, _ | _⟩⟩
      exact decodeInequality_lte_eq_ok leftRead rightRead

theorem isMenuMade_operands (made : inequality.IsMenuMade) :
    ∀ operand ∈ inequality.operands, operand.IsMenuMade := by
  cases inequality with
  | timeLte date => exact absurd made id
  | _ => simp_all [operands, Part.IsMenuMade, Leaf.IsTyped, IsMenuMade]

theorem suitsAt_operands (inequality : Inequality) :
    ∀ placed ∈ inequality.operands.zipIdx,
      placed.1.SuitsAt .inequality inequality.tag.name placed.2 := by
  cases inequality <;>
    simp [operands, Part.SuitsAt, Signature.of?, tag, InequalityTag.signature,
      Signature.slotAt?, Leaf.kind]

/-- Every inequality of the class is made by a template over its operands. -/
theorem isOver (made : inequality.IsMenuMade) :
    (Part.inequality inequality).IsOver Catalog.conditions inequality.tag.name
      inequality.operands where
  sized := by cases inequality <;> rfl
  made := isMenuMade_operands made
  suited := suitsAt_operands inequality
  offered := offered made
  read _ _ _ _ read := standsFor_of_operands read

end Inequality

/-! ## Claims -/

namespace Claim

variable {claim : Claim}

/-- Every claim of the class has a template. -/
theorem offered (made : claim.IsMenuMade) :
    ∃ template ∈ Catalog.primitives,
      template.Opens .claim claim.tag.name (claim.operands.map Part.type) := by
  cases claim with
  | zero =>
      exact ⟨.zero, by simp [Catalog.primitives], opens_claimOver .zero _⟩
  | one asset =>
      exact ⟨.one, by simp [Catalog.primitives], opens_claimOver .one _⟩
  | give claim =>
      exact ⟨.give, by simp [Catalog.primitives], opens_claimOver .give _⟩
  | and first second others =>
      obtain ⟨rfl, _, _⟩ := made
      exact ⟨.and, by simp [Catalog.primitives], opens_claimOver .and _⟩
  | or first second others =>
      obtain ⟨rfl, _, _⟩ := made
      exact ⟨.or, by simp [Catalog.primitives], fun _ => ⟨_, rfl, rfl⟩, fun _ => rfl⟩
  | cond predicate success failure =>
      exact ⟨.cond, by simp [Catalog.primitives], opens_claimOver .cond _⟩
  | scale factor claim =>
      exact ⟨.scale, by simp [Catalog.primitives], opens_claimOver .scale _⟩
  | whenHolds predicate claim =>
      exact ⟨.whenHolds, by simp [Catalog.primitives], opens_claimOver .whenHolds _⟩
  | untilHolds predicate claim =>
      exact ⟨.untilHolds, by simp [Catalog.primitives], opens_claimOver .untilHolds _⟩
  | anytime predicate electable =>
      exact ⟨.anytime, by simp [Catalog.primitives], fun _ => ⟨_, rfl, rfl⟩, fun _ => rfl⟩

/-- A node is read as a claim of the class if its children are read as the operands,
whatever its text. -/
theorem standsFor_of_operands
    {id : NodeId}
    {text : Option String}
    {nodes : List Tree}
    (made : claim.IsMenuMade)
    (read : List.Forall₂ StandsFor nodes claim.operands) :
    StandsFor ⟨id, claim.tag.name, .claim, nodes, text, none⟩ (.claim claim) := by
  cases claim with
  | zero =>
      rcases read with _ | _
      exact decodeClaim_zero
  | one asset =>
      rcases read with _ | ⟨assetRead, _ | _⟩
      exact decodeClaim_one_eq_ok ((decodeAsset_eq_ok_iff _ _).2 assetRead)
  | give claim =>
      rcases read with _ | ⟨claimRead, _ | _⟩
      exact decodeClaim_give_eq_ok claimRead
  | and first second others =>
      obtain ⟨rfl, _, _⟩ := made
      rcases read with _ | ⟨firstRead, _ | ⟨secondRead, _ | _⟩⟩
      exact decodeClaim_and_eq_ok firstRead secondRead rfl
  | or first second others =>
      obtain ⟨rfl, _, _⟩ := made
      rcases read with _ | ⟨firstReads, _ | ⟨secondReads, _ | _⟩⟩
      exact decodeClaim_or_eq_ok firstReads secondReads rfl
  | cond predicate success failure =>
      rcases read with _ | ⟨predicateRead, _ | ⟨successRead, _ | ⟨failureRead, _ | _⟩⟩⟩
      exact decodeClaim_cond_eq_ok predicateRead successRead failureRead
  | scale factor claim =>
      rcases read with _ | ⟨factorRead, _ | ⟨claimRead, _ | _⟩⟩
      exact decodeClaim_scale_eq_ok factorRead claimRead
  | whenHolds predicate claim =>
      rcases read with _ | ⟨predicateRead, _ | ⟨claimRead, _ | _⟩⟩
      exact decodeClaim_whenHolds_eq_ok predicateRead claimRead
  | untilHolds predicate claim =>
      rcases read with _ | ⟨predicateRead, _ | ⟨claimRead, _ | _⟩⟩
      exact decodeClaim_untilHolds_eq_ok predicateRead claimRead
  | anytime predicate electable =>
      rcases read with _ | ⟨predicateRead, _ | ⟨reads, _ | _⟩⟩
      exact decodeClaim_anytime_eq_ok predicateRead reads

theorem isMenuMade_operands (made : claim.IsMenuMade) :
    ∀ operand ∈ claim.operands, operand.IsMenuMade := by
  cases claim <;>
    simp_all [operands, Part.IsMenuMade, Leaf.IsTyped, IsMenuMade]

theorem suitsAt_operands (made : claim.IsMenuMade) :
    ∀ placed ∈ claim.operands.zipIdx,
      placed.1.SuitsAt .claim claim.tag.name placed.2 := by
  cases claim <;>
    simp_all [operands, Part.SuitsAt, Signature.of?, tag, ClaimTag.signature,
      Signature.slotAt?, Leaf.kind, IsMenuMade]

theorem sizeOfClaims_eq (claims : List Claim) :
    sizeOfClaims claims = ((claims.map Part.claim).map Part.size).sum := by
  induction claims with
  | nil => rfl
  | cons claim rest restHypothesis =>
      rw [sizeOfClaims, restHypothesis]
      rfl

theorem sizeOfElectables_eq (electables : List Electable) :
    sizeOfElectables electables = ((electables.map Part.electable).map Part.size).sum := by
  induction electables with
  | nil => rfl
  | cons electable rest restHypothesis =>
      rw [sizeOfElectables, restHypothesis]
      rfl

theorem size_eq_operands (claim : Claim) :
    claim.size = (claim.operands.map Part.size).sum + 1 := by
  cases claim with
  | and first second others =>
      simp [size, operands, Part.size, sizeOfClaims_eq, Nat.add_assoc]
  | or first second others =>
      obtain ⟨_, first⟩ := first
      obtain ⟨_, second⟩ := second
      simp [size, operands, Part.size, sizeOfElectables_eq, Nat.add_assoc]
  | cond predicate success failure => simp [size, operands, Part.size, Nat.add_assoc]
  | _ => rfl

/-- Every claim of the class is made by a template over its operands. -/
theorem isOver (made : claim.IsMenuMade) :
    (Part.claim claim).IsOver Catalog.primitives claim.tag.name claim.operands where
  sized := claim.size_eq_operands
  made := isMenuMade_operands made
  suited := suitsAt_operands made
  offered := offered made
  read _ _ _ _ read := standsFor_of_operands made read

end Claim
end ContingentClaims
