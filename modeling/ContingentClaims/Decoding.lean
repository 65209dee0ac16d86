import ContingentClaims.Grammar.Check

/-!
# From trees to terms

A tree is read back as a term of a given kind. Before anything is read from a
node its type is compared, an open slot is refused, and the node is checked
against the grammar; no term is produced from part of a tree.

The text of a node counts in two places only: as the label of an alternative,
where no text stands for the empty label, and on a sum, where the difference
mark stands for a negated second operand. A difference node reads in the same
way as a marked sum.
-/

namespace ContingentClaims
namespace Tree

/-- Require the type of a node, a filled slot, and a node without defect. -/
def prepare
    (node : Tree)
    (expected : NodeType) : Except TreeError Unit :=
  if node.type ≠ expected then
    .error (.ofDefect node (.unexpectedType expected node.type))
  else if node.isPlaceholder then
    .error (.ofSlot node)
  else
    node.check

/-! ## Leaves -/

/-- The leaf of a value node. -/
def leaf (node : Tree) : Except TreeError Leaf := do
  node.prepare .value
  match node.value with
  | some leaf => .ok leaf
  | none => .error (.ofDefect node .emptyLeaf)

/-- The asset that a value node carries. -/
def decodeAsset (node : Tree) : Except TreeError Asset := do
  match <- node.leaf with
  | .asset content => .ok content
  | _ => .error (.ofDefect node (.unexpectedLeaf .asset))

/-- The number that a value node carries. -/
def decodeDecimal (node : Tree) : Except TreeError Decimal := do
  match <- node.leaf with
  | .decimal content => .ok content
  | _ => .error (.ofDefect node (.unexpectedLeaf .decimal))

/-- The date that a value node carries. -/
def decodeDate (node : Tree) : Except TreeError Date := do
  match <- node.leaf with
  | .date content => .ok content
  | _ => .error (.ofDefect node (.unexpectedLeaf .date))

/-- The observable key that a value node carries. -/
def decodeKey (node : Tree) : Except TreeError String := do
  match <- node.leaf with
  | .key content => .ok content
  | _ => .error (.ofDefect node (.unexpectedLeaf .key))

/-! ## Observations and inequalities -/

/-- Read an observation; operands are read from left to right. -/
def decodeObservation : Tree -> Except TreeError Observation
  | ⟨id, tag, type, children, text, value⟩ => do
      let node : Tree := ⟨id, tag, type, children, text, value⟩
      node.prepare .observation
      match ObservationTag.ofName? tag, children with
      | some .const, [number] => return .const (<- number.decodeDecimal)
      | some .observe, [key] => return .observe (<- key.decodeKey)
      | some .observeAt, [key, date] =>
          return .observeAt (<- key.decodeKey) (<- date.decodeDate)
      | some .add, [left, right] => do
          let left <- left.decodeObservation
          let right <- right.decodeObservation
          return if text = some differenceMark then .sub left right else .add left right
      | some .sub, [left, right] =>
          return .sub (<- left.decodeObservation) (<- right.decodeObservation)
      | some .neg, [operand] => return .neg (<- operand.decodeObservation)
      | some .mul, [left, right] =>
          return .mul (<- left.decodeObservation) (<- right.decodeObservation)
      | some .div, [left, right] =>
          return .div (<- left.decodeObservation) (<- right.decodeObservation)
      | _, _ => .error (.ofDefect node (.unreadable .observation))
termination_by structural tree => tree

/-- Read an inequality; operands are read from left to right. -/
def decodeInequality (node : Tree) : Except TreeError Inequality := do
  node.prepare .inequality
  match InequalityTag.ofName? node.tag, node.children with
  | some .timeGte, [date] => return .timeGte (<- date.decodeDate)
  | some .timeLte, [date] => return .timeLte (<- date.decodeDate)
  | some .lte, [left, right] =>
      return .lte (<- left.decodeObservation) (<- right.decodeObservation)
  | _, _ => .error (.ofDefect node (.unreadable .inequality))

/-! ## Claims -/

/-- The label that a node carries as an alternative. -/
def electableLabel (node : Tree) : String :=
  node.text.getD ""

mutual

/-- Read a claim. The operands of a conjunction or a choice behind the first two
are read before these. -/
def decodeClaim : Tree -> Except TreeError Claim
  | ⟨id, tag, type, children, text, value⟩ => do
      let node : Tree := ⟨id, tag, type, children, text, value⟩
      node.prepare .claim
      match ClaimTag.ofName? tag, children with
      | some .zero, [] => return .zero
      | some .one, [asset] => return .one (<- asset.decodeAsset)
      | some .give, [claim] => return .give (<- claim.decodeClaim)
      | some .and, first :: second :: others => do
          let others <- decodeClaims others
          return .and (<- first.decodeClaim) (<- second.decodeClaim) others
      | some .or, first :: second :: others => do
          let others <- decodeElectables others
          let firstClaim <- first.decodeClaim
          let secondClaim <- second.decodeClaim
          return .or (.mk first.electableLabel firstClaim)
            (.mk second.electableLabel secondClaim) others
      | some .cond, [predicate, success, failure] =>
          return .cond (<- predicate.decodeInequality) (<- success.decodeClaim)
            (<- failure.decodeClaim)
      | some .scale, [factor, claim] =>
          return .scale (<- factor.decodeObservation) (<- claim.decodeClaim)
      | some .whenHolds, [predicate, claim] =>
          return .whenHolds (<- predicate.decodeInequality) (<- claim.decodeClaim)
      | some .untilHolds, [predicate, claim] =>
          return .untilHolds (<- predicate.decodeInequality) (<- claim.decodeClaim)
      | some .anytime, [predicate, alternative] => do
          let predicate <- predicate.decodeInequality
          return .anytime predicate
            (.mk alternative.electableLabel (<- alternative.decodeClaim))
      | _, _ => .error (.ofDefect node (.unreadable .claim))
termination_by structural tree => tree

/-- Read claims in order. -/
def decodeClaims : List Tree -> Except TreeError (List Claim)
  | [] => return []
  | tree :: rest => do
      let claim <- tree.decodeClaim
      return claim :: (<- decodeClaims rest)
termination_by structural trees => trees

/-- Read alternatives in order. -/
def decodeElectables : List Tree -> Except TreeError (List Electable)
  | [] => return []
  | tree :: rest => do
      let claim <- tree.decodeClaim
      return .mk tree.electableLabel claim :: (<- decodeElectables rest)
termination_by structural trees => trees

end

end Tree
end ContingentClaims
