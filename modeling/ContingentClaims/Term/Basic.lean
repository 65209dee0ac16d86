import ContingentClaims.Date
import ContingentClaims.Decimal.Basic
import ContingentClaims.Term.Tag

/-!
# Contingent claims

The three kinds of terms. A *claim* describes a payoff, an *observation* is a
numeric formula over market data, and an *inequality* is a condition on time or
on observations that gates a claim.

`==` on terms compares decimals by value: terms that differ only in the number
of fraction digits of their constants are equal under it.
-/

namespace ContingentClaims

/-- A deliverable asset, possibly in a given version. -/
structure Asset where
  id : String
  version : Option String := none
  deriving DecidableEq

/-! ## Observations and inequalities -/

/-- A numeric formula over market data. -/
inductive Observation
  | const (value : Decimal)
  /-- The current value of a market observable. -/
  | observe (key : String)
  /-- The value of a market observable on a given day. -/
  | observeAt (key : String) (date : Date)
  | add (left right : Observation)
  | neg (operand : Observation)
  | mul (left right : Observation)
  | div (left right : Observation)
  deriving DecidableEq

namespace Observation

/-- A difference, written as a sum with a negated second operand. -/
def sub (left right : Observation) : Observation :=
  add left (neg right)

/-- The constructor of an observation. -/
def tag : Observation -> ObservationTag
  | const _ => .const
  | observe _ => .observe
  | observeAt _ _ => .observeAt
  | add _ _ => .add
  | neg _ => .neg
  | mul _ _ => .mul
  | div _ _ => .div

/-- Equality up to the numeric value of constants. -/
def sameValue : Observation -> Observation -> Bool
  | const left, const right => left == right
  | observe left, observe right => left == right
  | observeAt left leftDate, observeAt right rightDate =>
      left == right && leftDate == rightDate
  | add a b, add c d => a.sameValue c && b.sameValue d
  | neg a, neg b => a.sameValue b
  | mul a b, mul c d => a.sameValue c && b.sameValue d
  | div a b, div c d => a.sameValue c && b.sameValue d
  | _, _ => false

instance : BEq Observation where
  beq := sameValue

end Observation

/-- A condition on time or on observations. -/
inductive Inequality
  /-- From a day on. -/
  | timeGte (date : Date)
  /-- Up to a day. -/
  | timeLte (date : Date)
  | lte (left right : Observation)
  deriving DecidableEq

namespace Inequality

/-- The constructor of an inequality. -/
def tag : Inequality -> InequalityTag
  | timeGte _ => .timeGte
  | timeLte _ => .timeLte
  | lte _ _ => .lte

/-- Equality up to the numeric value of constants. -/
def sameValue : Inequality -> Inequality -> Bool
  | timeGte left, timeGte right => left == right
  | timeLte left, timeLte right => left == right
  | lte a b, lte c d => a == c && b == d
  | _, _ => false

instance : BEq Inequality where
  beq := sameValue

end Inequality

/-! ## Claims -/

mutual

/-- A payoff. -/
inductive Claim
  /-- No payoff. -/
  | zero
  /-- One unit of an asset. -/
  | one (asset : Asset)
  /-- A claim with rights and obligations exchanged. -/
  | give (claim : Claim)
  /-- Two claims or more, all of them. -/
  | and (first second : Claim) (others : List Claim)
  /-- Two alternatives or more, of which the holder elects one. -/
  | or (first second : Electable) (others : List Electable)
  /-- One claim if the condition holds, the other if it does not. -/
  | cond (predicate : Inequality) (success failure : Claim)
  /-- A claim multiplied by the value of an observation. -/
  | scale (factor : Observation) (claim : Claim)
  /-- A claim acquired when the condition holds. -/
  | whenHolds (predicate : Inequality) (claim : Claim)
  /-- A claim that lapses when the condition holds. -/
  | untilHolds (predicate : Inequality) (claim : Claim)
  /-- An alternative that the holder may elect while the condition holds. -/
  | anytime (predicate : Inequality) (electable : Electable)

/-- A claim under the label by which the holder elects it. -/
inductive Electable
  | mk (label : String) (claim : Claim)

end

namespace Electable

/-- The label of an alternative. -/
def label : Electable -> String
  | mk label _ => label

/-- The claim of an alternative. -/
def claim : Electable -> Claim
  | mk _ claim => claim

@[simp] theorem label_mk (label : String) (claim : Claim) :
    (mk label claim).label = label := rfl

@[simp] theorem claim_mk (label : String) (claim : Claim) :
    (mk label claim).claim = claim := rfl

end Electable

namespace Claim

/-- The constructor of a claim. -/
def tag : Claim -> ClaimTag
  | zero => .zero
  | one _ => .one
  | give _ => .give
  | and _ _ _ => .and
  | or _ _ _ => .or
  | cond _ _ _ => .cond
  | scale _ _ => .scale
  | whenHolds _ _ => .whenHolds
  | untilHolds _ _ => .untilHolds
  | anytime _ _ => .anytime

/-- All of the claims in a list of two or more. -/
def all? : List Claim -> Option Claim
  | first :: second :: others => some (and first second others)
  | _ => none

/-- One of the alternatives in a list of two or more. -/
def anyOf? : List Electable -> Option Claim
  | first :: second :: others => some (or first second others)
  | _ => none

end Claim

mutual

/-- Equality up to the numeric value of constants. -/
def Claim.sameValue : Claim -> Claim -> Bool
  | .zero, .zero => true
  | .one left, .one right => left == right
  | .give left, .give right => left.sameValue right
  | .and a b others, .and c d others' =>
      a.sameValue c && b.sameValue d && sameClaims others others'
  | .or a b others, .or c d others' =>
      a.sameValue c && b.sameValue d && sameElectables others others'
  | .cond p a b, .cond q c d => p == q && a.sameValue c && b.sameValue d
  | .scale f a, .scale g b => f == g && a.sameValue b
  | .whenHolds p a, .whenHolds q b => p == q && a.sameValue b
  | .untilHolds p a, .untilHolds q b => p == q && a.sameValue b
  | .anytime p a, .anytime q b => p == q && a.sameValue b
  | _, _ => false
termination_by structural claim => claim

/-- Equal labels, and equal claims up to the numeric value of constants. -/
def Electable.sameValue : Electable -> Electable -> Bool
  | .mk left a, .mk right b => left == right && a.sameValue b
termination_by structural electable => electable

/-- Equality of claims position by position. -/
def sameClaims : List Claim -> List Claim -> Bool
  | [], [] => true
  | a :: rest, b :: rest' => a.sameValue b && sameClaims rest rest'
  | _, _ => false
termination_by structural claims => claims

/-- Equality of alternatives position by position. -/
def sameElectables : List Electable -> List Electable -> Bool
  | [], [] => true
  | a :: rest, b :: rest' => a.sameValue b && sameElectables rest rest'
  | _, _ => false
termination_by structural electables => electables

end

instance : BEq Claim where
  beq := Claim.sameValue

instance : BEq Electable where
  beq := Electable.sameValue

end ContingentClaims
