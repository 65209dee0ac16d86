import ContingentClaims.Proofs.Text.Literals

/-!
# Zeros without a sign

The literal that is written for a decimal never yields a negative zero. What comes back
from the literals in the place of a term is the same term without the signs of its
zeros, which is equal to it by value.
-/

namespace ContingentClaims

/-! ## Taking the signs away -/

/-- A leaf that is a negative zero loses the sign. -/
def Leaf.unsignZeros : Leaf -> Leaf
  | decimal value => .decimal value.unsignZero
  | leaf => leaf

/-- The observation with no sign on a zero. -/
def Observation.unsignZeros : Observation -> Observation
  | const value => .const value.unsignZero
  | observe key => .observe key
  | observeAt key date => .observeAt key date
  | add left right => .add left.unsignZeros right.unsignZeros
  | neg operand => .neg operand.unsignZeros
  | mul left right => .mul left.unsignZeros right.unsignZeros
  | div left right => .div left.unsignZeros right.unsignZeros

/-- The inequality with no sign on a zero. -/
def Inequality.unsignZeros : Inequality -> Inequality
  | timeGte date => .timeGte date
  | timeLte date => .timeLte date
  | lte left right => .lte left.unsignZeros right.unsignZeros

mutual

/-- The claim with no sign on a zero. -/
def Claim.unsignZeros : Claim -> Claim
  | .zero => .zero
  | .one asset => .one asset
  | .give claim => .give claim.unsignZeros
  | .and first second others =>
      .and first.unsignZeros second.unsignZeros (unsignZerosOfClaims others)
  | .or first second others =>
      .or first.unsignZeros second.unsignZeros (unsignZerosOfElectables others)
  | .cond predicate success failure =>
      .cond predicate.unsignZeros success.unsignZeros failure.unsignZeros
  | .scale factor claim => .scale factor.unsignZeros claim.unsignZeros
  | .whenHolds predicate claim => .whenHolds predicate.unsignZeros claim.unsignZeros
  | .untilHolds predicate claim => .untilHolds predicate.unsignZeros claim.unsignZeros
  | .anytime predicate electable => .anytime predicate.unsignZeros electable.unsignZeros
termination_by structural claim => claim

/-- The alternative with no sign on a zero. -/
def Electable.unsignZeros : Electable -> Electable
  | .mk label claim => .mk label claim.unsignZeros
termination_by structural electable => electable

/-- Claims with no sign on a zero. -/
def unsignZerosOfClaims : List Claim -> List Claim
  | [] => []
  | claim :: rest => claim.unsignZeros :: unsignZerosOfClaims rest
termination_by structural claims => claims

/-- Alternatives with no sign on a zero. -/
def unsignZerosOfElectables : List Electable -> List Electable
  | [] => []
  | electable :: rest => electable.unsignZeros :: unsignZerosOfElectables rest
termination_by structural electables => electables

end

mutual

/-- The tree with no sign on a zero. -/
def Tree.unsignZeros : Tree -> Tree
  | ⟨id, tag, type, children, text, value⟩ =>
      ⟨id, tag, type, unsignZerosOfTrees children, text, value.map Leaf.unsignZeros⟩
termination_by structural tree => tree

/-- Trees with no sign on a zero. -/
def unsignZerosOfTrees : List Tree -> List Tree
  | [] => []
  | tree :: rest => tree.unsignZeros :: unsignZerosOfTrees rest
termination_by structural trees => trees

end

/-! ## Equality by value -/

theorem Observation.unsignZeros_beq (observation : Observation) :
    (observation.unsignZeros == observation) = true := by
  change observation.unsignZeros.sameValue observation = true
  induction observation with
  | const value => exact value.unsignZero_beq
  | observe key => simp [unsignZeros, sameValue]
  | observeAt key date => simp [unsignZeros, sameValue]
  | add left right leftHypothesis rightHypothesis =>
      simp [unsignZeros, sameValue, leftHypothesis, rightHypothesis]
  | neg operand operandHypothesis => exact operandHypothesis
  | mul left right leftHypothesis rightHypothesis =>
      simp [unsignZeros, sameValue, leftHypothesis, rightHypothesis]
  | div left right leftHypothesis rightHypothesis =>
      simp [unsignZeros, sameValue, leftHypothesis, rightHypothesis]

theorem Inequality.unsignZeros_beq (inequality : Inequality) :
    (inequality.unsignZeros == inequality) = true := by
  change inequality.unsignZeros.sameValue inequality = true
  cases inequality with
  | timeGte date => simp [unsignZeros, sameValue]
  | timeLte date => simp [unsignZeros, sameValue]
  | lte left right => simp [unsignZeros, sameValue, Observation.unsignZeros_beq]

mutual

private theorem sameValue_unsignZeros (claim : Claim) :
    claim.unsignZeros.sameValue claim = true := by
  cases claim with
  | zero => rfl
  | one asset => simp [Claim.unsignZeros, Claim.sameValue]
  | give claim =>
      simp [Claim.unsignZeros, Claim.sameValue, sameValue_unsignZeros claim]
  | and first second others =>
      simp [Claim.unsignZeros, Claim.sameValue, sameValue_unsignZeros first,
        sameValue_unsignZeros second, sameClaims_unsignZeros others]
  | or first second others =>
      simp [Claim.unsignZeros, Claim.sameValue, sameValue_unsignZeros_electable first,
        sameValue_unsignZeros_electable second, sameElectables_unsignZeros others]
  | cond predicate success failure =>
      simp [Claim.unsignZeros, Claim.sameValue, Inequality.unsignZeros_beq,
        sameValue_unsignZeros success, sameValue_unsignZeros failure]
  | scale factor claim =>
      simp [Claim.unsignZeros, Claim.sameValue, Observation.unsignZeros_beq,
        sameValue_unsignZeros claim]
  | whenHolds predicate claim =>
      simp [Claim.unsignZeros, Claim.sameValue, Inequality.unsignZeros_beq,
        sameValue_unsignZeros claim]
  | untilHolds predicate claim =>
      simp [Claim.unsignZeros, Claim.sameValue, Inequality.unsignZeros_beq,
        sameValue_unsignZeros claim]
  | anytime predicate electable =>
      simp [Claim.unsignZeros, Claim.sameValue, Inequality.unsignZeros_beq,
        sameValue_unsignZeros_electable electable]
termination_by structural claim

private theorem sameValue_unsignZeros_electable (electable : Electable) :
    electable.unsignZeros.sameValue electable = true := by
  cases electable with
  | mk label claim =>
      simp [Electable.unsignZeros, Electable.sameValue, sameValue_unsignZeros claim]
termination_by structural electable

private theorem sameClaims_unsignZeros (claims : List Claim) :
    sameClaims (unsignZerosOfClaims claims) claims = true := by
  cases claims with
  | nil => rfl
  | cons claim rest =>
      simp [unsignZerosOfClaims, sameClaims, sameValue_unsignZeros claim,
        sameClaims_unsignZeros rest]
termination_by structural claims

private theorem sameElectables_unsignZeros (electables : List Electable) :
    sameElectables (unsignZerosOfElectables electables) electables = true := by
  cases electables with
  | nil => rfl
  | cons electable rest =>
      simp [unsignZerosOfElectables, sameElectables,
        sameValue_unsignZeros_electable electable, sameElectables_unsignZeros rest]
termination_by structural electables

end

/-- The signs of zeros do not matter to the value of a claim. -/
theorem Claim.unsignZeros_beq (claim : Claim) :
    (claim.unsignZeros == claim) = true :=
  sameValue_unsignZeros claim

/-! ## Typing a leaf -/

namespace Leaf

theorem kind_unsignZeros (leaf : Leaf) : leaf.unsignZeros.kind = leaf.kind := by
  cases leaf <;> rfl

/-- The text of a leaf that can be typed is read as this leaf, but for the sign of a
zero. -/
theorem ofLiteral_text
    {leaf : Leaf}
    (typed : leaf.IsTyped) :
    ofLiteral leaf.kind leaf.text = .ok leaf.unsignZeros := by
  cases leaf with
  | asset content =>
      obtain ⟨id, version⟩ := content
      obtain ⟨unversioned, trimmed⟩ := typed
      subst unversioned
      exact ofLiteral_asset trimmed
  | decimal value => exact ofLiteral_decimal value
  | date date => exact ofLiteral_date date
  | key key => exact ofLiteral_key typed

end Leaf
end ContingentClaims
