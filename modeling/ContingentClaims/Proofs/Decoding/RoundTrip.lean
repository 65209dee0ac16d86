import ContingentClaims.Encoding
import ContingentClaims.Proofs.Decoding.Rules

/-!
# Reading back what is written

The tree of a term reads as that term, whatever identifiers its nodes were given.
A difference is drawn without a node for its negation, and the mark on the sum
brings the negation back; labels come back from the texts of the alternatives.
-/

namespace ContingentClaims

open ContingentClaims.Tree

/-! ## Leaves -/

theorem Leaf.leaf_encode
    (content : Leaf)
    (source : IdSource) :
    (content.encode.run source).1.leaf = .ok content := by
  rw [leaf_eq_ok_iff]
  exact ⟨rfl, rfl, rfl, rfl⟩

theorem decodeAsset_encode
    (asset : Asset)
    (source : IdSource) :
    ((Leaf.asset asset).encode.run source).1.decodeAsset = .ok asset := by
  rw [decodeAsset_eq_ok_iff, Leaf.leaf_encode]

theorem decodeDecimal_encode
    (number : Decimal)
    (source : IdSource) :
    ((Leaf.decimal number).encode.run source).1.decodeDecimal = .ok number := by
  rw [decodeDecimal_eq_ok_iff, Leaf.leaf_encode]

theorem decodeDate_encode
    (date : Date)
    (source : IdSource) :
    ((Leaf.date date).encode.run source).1.decodeDate = .ok date := by
  rw [decodeDate_eq_ok_iff, Leaf.leaf_encode]

theorem decodeKey_encode
    (key : String)
    (source : IdSource) :
    ((Leaf.key key).encode.run source).1.decodeKey = .ok key := by
  rw [decodeKey_eq_ok_iff, Leaf.leaf_encode]

/-! ## Observations and inequalities -/

theorem decodeObservation_encode
    (observation : Observation)
    (source : IdSource) :
    (observation.encode.run source).1.decodeObservation = .ok observation := by
  induction observation using Observation.encode.induct generalizing source with
  | case1 value =>
      exact decodeObservation_const_eq_ok (decodeDecimal_encode value _)
  | case2 key =>
      exact decodeObservation_observe_eq_ok (decodeKey_encode key _)
  | case3 key date =>
      exact decodeObservation_observeAt_eq_ok (decodeKey_encode key _)
        (decodeDate_encode date _)
  | case4 left right leftHypothesis rightHypothesis =>
      exact decodeObservation_difference_eq_ok (leftHypothesis _) (rightHypothesis _)
  | case5 left right plain leftHypothesis rightHypothesis =>
      rw [Observation.encode.eq_5 left right plain]
      exact decodeObservation_add_eq_ok nofun (leftHypothesis _) (rightHypothesis _)
  | case6 operand operandHypothesis =>
      exact decodeObservation_neg_eq_ok (operandHypothesis _)
  | case7 left right leftHypothesis rightHypothesis =>
      exact decodeObservation_mul_eq_ok (leftHypothesis _) (rightHypothesis _)
  | case8 left right leftHypothesis rightHypothesis =>
      exact decodeObservation_div_eq_ok (leftHypothesis _) (rightHypothesis _)

theorem decodeInequality_encode
    (inequality : Inequality)
    (source : IdSource) :
    (inequality.encode.run source).1.decodeInequality = .ok inequality := by
  cases inequality with
  | timeGte date =>
      exact decodeInequality_timeGte_eq_ok (decodeDate_encode date _)
  | timeLte date =>
      exact decodeInequality_timeLte_eq_ok (decodeDate_encode date _)
  | lte left right =>
      exact decodeInequality_lte_eq_ok (decodeObservation_encode left _)
        (decodeObservation_encode right _)

/-! ## Claims -/

mutual

theorem decodeClaim_encode
    (claim : Claim)
    (source : IdSource) :
    (claim.encode.run source).1.decodeClaim = .ok claim := by
  cases claim with
  | zero => exact decodeClaim_zero
  | one asset => exact decodeClaim_one_eq_ok (decodeAsset_encode asset _)
  | give claim => exact decodeClaim_give_eq_ok (decodeClaim_encode claim _)
  | and first second others =>
      exact decodeClaim_and_eq_ok (decodeClaim_encode first _)
        (decodeClaim_encode second _) (decodeClaims_encode others _)
  | or first second others =>
      exact decodeClaim_or_eq_ok (readsAs_encode first _) (readsAs_encode second _)
        (decodeElectables_encode others _)
  | cond predicate success failure =>
      exact decodeClaim_cond_eq_ok (decodeInequality_encode predicate _)
        (decodeClaim_encode success _) (decodeClaim_encode failure _)
  | scale factor claim =>
      exact decodeClaim_scale_eq_ok (decodeObservation_encode factor _)
        (decodeClaim_encode claim _)
  | whenHolds predicate claim =>
      exact decodeClaim_whenHolds_eq_ok (decodeInequality_encode predicate _)
        (decodeClaim_encode claim _)
  | untilHolds predicate claim =>
      exact decodeClaim_untilHolds_eq_ok (decodeInequality_encode predicate _)
        (decodeClaim_encode claim _)
  | anytime predicate electable =>
      exact decodeClaim_anytime_eq_ok (decodeInequality_encode predicate _)
        (readsAs_encode electable _)
termination_by structural claim

theorem readsAs_encode
    (electable : Electable)
    (source : IdSource) :
    (electable.encode.run source).1.ReadsAs electable := by
  cases electable with
  | mk label claim => exact readsAs_withText (decodeClaim_encode claim source) label
termination_by structural electable

theorem decodeClaims_encode
    (claims : List Claim)
    (source : IdSource) :
    decodeClaims ((encodeClaims claims).run source).1 = .ok claims := by
  cases claims with
  | nil => rfl
  | cons claim rest =>
      rw [decodeClaims_eq_ok_iff]
      have restRead := decodeClaims_encode rest (claim.encode.run source).2
      exact .cons (decodeClaim_encode claim source)
        ((decodeClaims_eq_ok_iff _ rest).1 restRead)
termination_by structural claims

theorem decodeElectables_encode
    (electables : List Electable)
    (source : IdSource) :
    decodeElectables ((encodeElectables electables).run source).1 = .ok electables := by
  cases electables with
  | nil => rfl
  | cons electable rest =>
      rw [decodeElectables_eq_ok_iff]
      have restRead := decodeElectables_encode rest (electable.encode.run source).2
      exact .cons (readsAs_encode electable source)
        ((decodeElectables_eq_ok_iff _ rest).1 restRead)
termination_by structural electables

end

/-- Reading the tree that is written for a term gives the term back: claims,
observations and inequalities alike, and for every source of identifiers. -/
theorem decode_encode :
    (∀ (claim : Claim) (source : IdSource),
      (claim.encode.run source).1.decodeClaim = .ok claim) ∧
    (∀ (observation : Observation) (source : IdSource),
      (observation.encode.run source).1.decodeObservation = .ok observation) ∧
    (∀ (inequality : Inequality) (source : IdSource),
      (inequality.encode.run source).1.decodeInequality = .ok inequality) :=
  ⟨decodeClaim_encode, decodeObservation_encode, decodeInequality_encode⟩

end ContingentClaims
