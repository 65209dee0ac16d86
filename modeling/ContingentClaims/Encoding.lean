import ContingentClaims.Ids.Source

/-!
# From terms to trees

Every constructor of a term becomes a node over the nodes of its operands, and
every asset, number, date and key a value node. Identifiers are drawn for a node
before its children, so they lie in pre-order.

Two things are folded into the text of a node. An alternative carries its label
on the node of its claim. A sum with a negated second operand is drawn as a
difference: one node marked `-` over both operands, without a node for the
negation.
-/

namespace ContingentClaims

/-! ## Leaves -/

namespace Leaf

/-- The text on a freshly made value node: an asset shows its identifier. -/
def caption : Leaf -> Option String
  | asset content => some content.id
  | _ => none

/-- A fresh value node. -/
def encode (leaf : Leaf) : Fresh Tree := do
  let id <- Fresh.id
  return { Tree.ofLeaf id leaf with text := leaf.caption }

end Leaf

/-! ## Observations and inequalities -/

/-- The node of an observation over those of its operands. -/
def Observation.encode : Observation -> Fresh Tree
  | .const value => do
      let id <- Fresh.id
      return .observation id .const [<- (Leaf.decimal value).encode]
  | .observe key => do
      let id <- Fresh.id
      return .observation id .observe [<- (Leaf.key key).encode]
  | .observeAt key date => do
      let id <- Fresh.id
      return .observation id .observeAt
        [<- (Leaf.key key).encode, <- (Leaf.date date).encode]
  | .add left (.neg right) => do
      let id <- Fresh.id
      return (Tree.observation id .add [<- left.encode, <- right.encode]).withText
        Tree.differenceMark
  | .add left right => do
      let id <- Fresh.id
      return .observation id .add [<- left.encode, <- right.encode]
  | .neg operand => do
      let id <- Fresh.id
      return .observation id .neg [<- operand.encode]
  | .mul left right => do
      let id <- Fresh.id
      return .observation id .mul [<- left.encode, <- right.encode]
  | .div left right => do
      let id <- Fresh.id
      return .observation id .div [<- left.encode, <- right.encode]

/-- The node of an inequality over those of its operands. -/
def Inequality.encode : Inequality -> Fresh Tree
  | .timeGte date => do
      let id <- Fresh.id
      return .inequality id .timeGte [<- (Leaf.date date).encode]
  | .timeLte date => do
      let id <- Fresh.id
      return .inequality id .timeLte [<- (Leaf.date date).encode]
  | .lte left right => do
      let id <- Fresh.id
      return .inequality id .lte [<- left.encode, <- right.encode]

/-! ## Claims -/

mutual

/-- The node of a claim over those of its operands. -/
def Claim.encode : Claim -> Fresh Tree
  | .zero => do
      let id <- Fresh.id
      return .claim id .zero []
  | .one asset => do
      let id <- Fresh.id
      return .claim id .one [<- (Leaf.asset asset).encode]
  | .give claim => do
      let id <- Fresh.id
      return .claim id .give [<- claim.encode]
  | .and first second others => do
      let id <- Fresh.id
      return .claim id .and
        ((<- first.encode) :: (<- second.encode) :: (<- encodeClaims others))
  | .or first second others => do
      let id <- Fresh.id
      return .claim id .or
        ((<- first.encode) :: (<- second.encode) :: (<- encodeElectables others))
  | .cond predicate success failure => do
      let id <- Fresh.id
      return .claim id .cond
        [<- predicate.encode, <- success.encode, <- failure.encode]
  | .scale factor claim => do
      let id <- Fresh.id
      return .claim id .scale [<- factor.encode, <- claim.encode]
  | .whenHolds predicate claim => do
      let id <- Fresh.id
      return .claim id .whenHolds [<- predicate.encode, <- claim.encode]
  | .untilHolds predicate claim => do
      let id <- Fresh.id
      return .claim id .untilHolds [<- predicate.encode, <- claim.encode]
  | .anytime predicate electable => do
      let id <- Fresh.id
      return .claim id .anytime [<- predicate.encode, <- electable.encode]
termination_by structural claim => claim

/-- The node of an alternative's claim, with the label as its text. -/
def Electable.encode : Electable -> Fresh Tree
  | .mk label claim => do
      let tree <- claim.encode
      return tree.withText label
termination_by structural electable => electable

/-- The nodes of claims in order. -/
def encodeClaims : List Claim -> Fresh (List Tree)
  | [] => return []
  | claim :: rest => do
      let tree <- claim.encode
      return tree :: (<- encodeClaims rest)
termination_by structural claims => claims

/-- The nodes of alternatives in order. -/
def encodeElectables : List Electable -> Fresh (List Tree)
  | [] => return []
  | electable :: rest => do
      let tree <- electable.encode
      return tree :: (<- encodeElectables rest)
termination_by structural electables => electables

end

end ContingentClaims
