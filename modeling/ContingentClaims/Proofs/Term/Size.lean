import ContingentClaims.Term.Basic

/-!
# Sizes of terms

The number of constructors of a term and of the leaves below them.
-/

namespace ContingentClaims

/-- The constructors and leaves of an observation. -/
def Observation.size : Observation -> Nat
  | const _ => 2
  | observe _ => 2
  | observeAt _ _ => 3
  | add left right => left.size + right.size + 1
  | neg operand => operand.size + 1
  | mul left right => left.size + right.size + 1
  | div left right => left.size + right.size + 1

/-- The constructors and leaves of an inequality. -/
def Inequality.size : Inequality -> Nat
  | timeGte _ => 2
  | timeLte _ => 2
  | lte left right => left.size + right.size + 1

mutual

/-- The constructors and leaves of a claim. -/
def Claim.size : Claim -> Nat
  | .zero => 1
  | .one _ => 2
  | .give claim => claim.size + 1
  | .and first second others => first.size + second.size + sizeOfClaims others + 1
  | .or first second others => first.size + second.size + sizeOfElectables others + 1
  | .cond predicate success failure => predicate.size + success.size + failure.size + 1
  | .scale factor claim => factor.size + claim.size + 1
  | .whenHolds predicate claim => predicate.size + claim.size + 1
  | .untilHolds predicate claim => predicate.size + claim.size + 1
  | .anytime predicate electable => predicate.size + electable.size + 1
termination_by structural claim => claim

/-- The size of the claim of an alternative. -/
def Electable.size : Electable -> Nat
  | .mk _ claim => claim.size
termination_by structural electable => electable

/-- The sizes of claims together. -/
def sizeOfClaims : List Claim -> Nat
  | [] => 0
  | claim :: rest => claim.size + sizeOfClaims rest
termination_by structural claims => claims

/-- The sizes of alternatives together. -/
def sizeOfElectables : List Electable -> Nat
  | [] => 0
  | electable :: rest => electable.size + sizeOfElectables rest
termination_by structural electables => electables

end

theorem Observation.size_pos (observation : Observation) : 0 < observation.size := by
  cases observation <;> simp [size]

theorem Inequality.size_pos (inequality : Inequality) : 0 < inequality.size := by
  cases inequality <;> simp [size]

theorem Claim.size_pos (claim : Claim) : 0 < claim.size := by
  cases claim <;> simp [size]

end ContingentClaims
