import ContingentClaims.Term.Basic
import Mathlib.Data.List.Forall2

/-!
# Terms that are alike

Two terms are alike if they differ at most in their decimals, and these are related in the
same places. With equality of decimals, terms that are alike are the same; with equality by
value, they are equal under `==`.
-/

namespace ContingentClaims

/-- Observations with related constants. -/
inductive Observation.Alike (same : Decimal -> Decimal -> Prop) :
    Observation -> Observation -> Prop
  | const
      {left right : Decimal}
      (value : same left right) :
      Alike same (.const left) (.const right)
  | observe (key : String) : Alike same (.observe key) (.observe key)
  | observeAt
      (key : String)
      (date : Date) :
      Alike same (.observeAt key date) (.observeAt key date)
  | add
      {left right left' right' : Observation}
      (first : Alike same left left')
      (second : Alike same right right') :
      Alike same (.add left right) (.add left' right')
  | neg
      {operand operand' : Observation}
      (first : Alike same operand operand') :
      Alike same (.neg operand) (.neg operand')
  | mul
      {left right left' right' : Observation}
      (first : Alike same left left')
      (second : Alike same right right') :
      Alike same (.mul left right) (.mul left' right')
  | div
      {left right left' right' : Observation}
      (first : Alike same left left')
      (second : Alike same right right') :
      Alike same (.div left right) (.div left' right')

/-- Inequalities with related constants. -/
inductive Inequality.Alike (same : Decimal -> Decimal -> Prop) :
    Inequality -> Inequality -> Prop
  | timeGte (date : Date) : Alike same (.timeGte date) (.timeGte date)
  | timeLte (date : Date) : Alike same (.timeLte date) (.timeLte date)
  | lte
      {left right left' right' : Observation}
      (first : left.Alike same left')
      (second : right.Alike same right') :
      Alike same (.lte left right) (.lte left' right')

mutual

/-- Claims with related constants. -/
inductive Claim.Alike (same : Decimal -> Decimal -> Prop) : Claim -> Claim -> Prop
  | zero : Claim.Alike same .zero .zero
  | one (asset : Asset) : Claim.Alike same (.one asset) (.one asset)
  | give
      {claim claim' : Claim}
      (first : Claim.Alike same claim claim') :
      Claim.Alike same (.give claim) (.give claim')
  | and
      {first second first' second' : Claim}
      {others others' : List Claim}
      (firstAlike : Claim.Alike same first first')
      (secondAlike : Claim.Alike same second second')
      (othersAlike : List.Forall₂ (Claim.Alike same) others others') :
      Claim.Alike same (.and first second others) (.and first' second' others')
  | or
      {first second first' second' : Electable}
      {others others' : List Electable}
      (firstAlike : Electable.Alike same first first')
      (secondAlike : Electable.Alike same second second')
      (othersAlike : List.Forall₂ (Electable.Alike same) others others') :
      Claim.Alike same (.or first second others) (.or first' second' others')
  | cond
      {predicate predicate' : Inequality}
      {success failure success' failure' : Claim}
      (predicateAlike : predicate.Alike same predicate')
      (successAlike : Claim.Alike same success success')
      (failureAlike : Claim.Alike same failure failure') :
      Claim.Alike same (.cond predicate success failure) (.cond predicate' success' failure')
  | scale
      {factor factor' : Observation}
      {claim claim' : Claim}
      (factorAlike : factor.Alike same factor')
      (claimAlike : Claim.Alike same claim claim') :
      Claim.Alike same (.scale factor claim) (.scale factor' claim')
  | whenHolds
      {predicate predicate' : Inequality}
      {claim claim' : Claim}
      (predicateAlike : predicate.Alike same predicate')
      (claimAlike : Claim.Alike same claim claim') :
      Claim.Alike same (.whenHolds predicate claim) (.whenHolds predicate' claim')
  | untilHolds
      {predicate predicate' : Inequality}
      {claim claim' : Claim}
      (predicateAlike : predicate.Alike same predicate')
      (claimAlike : Claim.Alike same claim claim') :
      Claim.Alike same (.untilHolds predicate claim) (.untilHolds predicate' claim')
  | anytime
      {predicate predicate' : Inequality}
      {electable electable' : Electable}
      (predicateAlike : predicate.Alike same predicate')
      (electableAlike : Electable.Alike same electable electable') :
      Claim.Alike same (.anytime predicate electable) (.anytime predicate' electable')

/-- Alternatives of one label, with related constants. -/
inductive Electable.Alike (same : Decimal -> Decimal -> Prop) : Electable -> Electable -> Prop
  | mk
      (label : String)
      {claim claim' : Claim}
      (first : Claim.Alike same claim claim') :
      Electable.Alike same (.mk label claim) (.mk label claim')

end

/-! ## Equal decimals -/

theorem Observation.Alike.eq
    {left right : Observation}
    (alike : left.Alike Eq right) :
    left = right := by
  induction alike with
  | const value => rw [value]
  | observe key => rfl
  | observeAt key date => rfl
  | neg _ operandEq => rw [operandEq]
  | add _ _ leftEq rightEq => rw [leftEq, rightEq]
  | mul _ _ leftEq rightEq => rw [leftEq, rightEq]
  | div _ _ leftEq rightEq => rw [leftEq, rightEq]

theorem Inequality.Alike.eq
    {left right : Inequality}
    (alike : left.Alike Eq right) :
    left = right := by
  cases alike with
  | timeGte date => rfl
  | timeLte date => rfl
  | lte first second => rw [first.eq, second.eq]

mutual

/-- Claims that are alike with the same decimals are the same. -/
theorem Claim.Alike.eq
    {left right : Claim}
    (alike : left.Alike Eq right) :
    left = right := by
  cases alike with
  | zero => rfl
  | one asset => rfl
  | give first => rw [first.eq]
  | and first second others => rw [first.eq, second.eq, claims_eq_of_alike others]
  | or first second others => rw [first.eq, second.eq, electables_eq_of_alike others]
  | cond predicate success failure => rw [predicate.eq, success.eq, failure.eq]
  | scale factor claim => rw [factor.eq, claim.eq]
  | whenHolds predicate claim => rw [predicate.eq, claim.eq]
  | untilHolds predicate claim => rw [predicate.eq, claim.eq]
  | anytime predicate electable => rw [predicate.eq, electable.eq]
termination_by structural left

theorem Electable.Alike.eq
    {left right : Electable}
    (alike : left.Alike Eq right) :
    left = right := by
  cases alike with
  | mk label first => rw [first.eq]
termination_by structural left

private theorem claims_eq_of_alike
    {left right : List Claim}
    (alike : List.Forall₂ (Claim.Alike Eq) left right) :
    left = right := by
  cases alike with
  | nil => rfl
  | cons first rest => rw [first.eq, claims_eq_of_alike rest]
termination_by structural left

private theorem electables_eq_of_alike
    {left right : List Electable}
    (alike : List.Forall₂ (Electable.Alike Eq) left right) :
    left = right := by
  cases alike with
  | nil => rfl
  | cons first rest => rw [first.eq, electables_eq_of_alike rest]
termination_by structural left

end

/-! ## Decimals of equal value -/

/-- Equality of decimals by value, as a relation. -/
def Decimal.Equals (left right : Decimal) : Prop :=
  (left == right) = true

theorem Observation.Alike.beq
    {left right : Observation}
    (alike : left.Alike Decimal.Equals right) :
    (left == right) = true := by
  change left.sameValue right = true
  induction alike with
  | const value => exact value
  | observe key => simp [sameValue]
  | observeAt key date => simp [sameValue]
  | neg _ operandSame => exact operandSame
  | add _ _ leftSame rightSame => simp [sameValue, leftSame, rightSame]
  | mul _ _ leftSame rightSame => simp [sameValue, leftSame, rightSame]
  | div _ _ leftSame rightSame => simp [sameValue, leftSame, rightSame]

theorem Inequality.Alike.beq
    {left right : Inequality}
    (alike : left.Alike Decimal.Equals right) :
    (left == right) = true := by
  change left.sameValue right = true
  cases alike with
  | timeGte date => simp [sameValue]
  | timeLte date => simp [sameValue]
  | lte first second => simp [sameValue, first.beq, second.beq]

mutual

private theorem sameValue_of_alike
    {left right : Claim}
    (alike : left.Alike Decimal.Equals right) :
    left.sameValue right = true := by
  cases alike with
  | zero => rfl
  | one asset => simp [Claim.sameValue]
  | give first => simp [Claim.sameValue, sameValue_of_alike first]
  | and first second others =>
      simp [Claim.sameValue, sameValue_of_alike first, sameValue_of_alike second,
        sameClaims_of_alike others]
  | or first second others =>
      simp [Claim.sameValue, sameValue_of_alike_electable first,
        sameValue_of_alike_electable second, sameElectables_of_alike others]
  | cond predicate success failure =>
      simp [Claim.sameValue, predicate.beq, sameValue_of_alike success,
        sameValue_of_alike failure]
  | scale factor claim => simp [Claim.sameValue, factor.beq, sameValue_of_alike claim]
  | whenHolds predicate claim =>
      simp [Claim.sameValue, predicate.beq, sameValue_of_alike claim]
  | untilHolds predicate claim =>
      simp [Claim.sameValue, predicate.beq, sameValue_of_alike claim]
  | anytime predicate electable =>
      simp [Claim.sameValue, predicate.beq, sameValue_of_alike_electable electable]
termination_by structural left

private theorem sameValue_of_alike_electable
    {left right : Electable}
    (alike : left.Alike Decimal.Equals right) :
    left.sameValue right = true := by
  cases alike with
  | mk label first => simp [Electable.sameValue, sameValue_of_alike first]
termination_by structural left

private theorem sameClaims_of_alike
    {left right : List Claim}
    (alike : List.Forall₂ (Claim.Alike Decimal.Equals) left right) :
    sameClaims left right = true := by
  cases alike with
  | nil => rfl
  | cons first rest =>
      simp [sameClaims, sameValue_of_alike first, sameClaims_of_alike rest]
termination_by structural left

private theorem sameElectables_of_alike
    {left right : List Electable}
    (alike : List.Forall₂ (Electable.Alike Decimal.Equals) left right) :
    sameElectables left right = true := by
  cases alike with
  | nil => rfl
  | cons first rest =>
      simp [sameElectables, sameValue_of_alike_electable first, sameElectables_of_alike rest]
termination_by structural left

end

/-- Claims that are alike with decimals of equal value are equal. -/
theorem Claim.Alike.beq
    {left right : Claim}
    (alike : left.Alike Decimal.Equals right) :
    (left == right) = true :=
  sameValue_of_alike alike

end ContingentClaims
