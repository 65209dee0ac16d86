import ContingentClaims.Encoding
import Mathlib.Data.List.Forall2

/-!
# Parts of terms

What fills one slot of a tree is a term, an alternative or a leaf, here a *part*. The
tree of a part is one node over the trees of its operands as they are *drawn*
(`Part.exists_node_encode`): a difference has its subtrahend for the second operand, and
the negation stands in the text of the node.
-/

namespace ContingentClaims

/-- What fills one slot. -/
inductive Part
  | claim (claim : Claim)
  | electable (electable : Electable)
  | observation (observation : Observation)
  | inequality (inequality : Inequality)
  | leaf (leaf : Leaf)

/-! ## Operands -/

/-- The operands of an observation. -/
def Observation.operands : Observation -> List Part
  | const value => [.leaf (.decimal value)]
  | observe key => [.leaf (.key key)]
  | observeAt key date => [.leaf (.key key), .leaf (.date date)]
  | add left right => [.observation left, .observation right]
  | neg operand => [.observation operand]
  | mul left right => [.observation left, .observation right]
  | div left right => [.observation left, .observation right]

/-- The operands of an inequality. -/
def Inequality.operands : Inequality -> List Part
  | timeGte date => [.leaf (.date date)]
  | timeLte date => [.leaf (.date date)]
  | lte left right => [.observation left, .observation right]

/-- The operands of a claim. -/
def Claim.operands : Claim -> List Part
  | zero => []
  | one asset => [.leaf (.asset asset)]
  | give claim => [.claim claim]
  | and first second others => .claim first :: .claim second :: others.map .claim
  | or first second others =>
      .electable first :: .electable second :: others.map .electable
  | cond predicate success failure =>
      [.inequality predicate, .claim success, .claim failure]
  | scale factor claim => [.observation factor, .claim claim]
  | whenHolds predicate claim => [.inequality predicate, .claim claim]
  | untilHolds predicate claim => [.inequality predicate, .claim claim]
  | anytime predicate electable => [.inequality predicate, .electable electable]

namespace Part

/-- The type of the nodes of a part. -/
def type : Part -> NodeType
  | claim _ => .claim
  | electable _ => .claim
  | observation _ => .observation
  | inequality _ => .inequality
  | leaf _ => .value

/-- Whether a part is an alternative. -/
def isElectable : Part -> Bool
  | electable _ => true
  | _ => false

/-! ## Parts as they are drawn -/

/-- The operands of a part for which its node has children. -/
def drawn : Part -> List Part
  | claim term => term.operands
  | electable alternative => alternative.claim.operands
  | observation (.add left (.neg right)) => [.observation left, .observation right]
  | observation term => term.operands
  | inequality term => term.operands
  | leaf _ => []

/-- The tag of the node of a part. -/
def tag : Part -> String
  | claim term => term.tag.name
  | electable alternative => alternative.claim.tag.name
  | observation term => term.tag.name
  | inequality term => term.tag.name
  | leaf content => content.tag

/-- The text on the node of a part. -/
def text : Part -> Option String
  | electable alternative => some alternative.label
  | observation (.add _ (.neg _)) => some Tree.differenceMark
  | leaf content => content.caption
  | _ => none

/-- A sum whose second operand is no negation is drawn over its operands. -/
theorem drawn_add
    {right : Observation}
    (plain : ∀ operand, right ≠ .neg operand)
    (left : Observation) :
    (observation (.add left right)).drawn = [observation left, observation right] := by
  cases right with
  | neg operand => exact absurd rfl (plain operand)
  | _ => rfl

theorem text_add
    {right : Observation}
    (plain : ∀ operand, right ≠ .neg operand)
    (left : Observation) :
    (observation (.add left right)).text = none := by
  cases right with
  | neg operand => exact absurd rfl (plain operand)
  | _ => rfl

/-- The leaf that the node of a part carries. -/
def value : Part -> Option Leaf
  | leaf content => some content
  | _ => none

/-- The node of a part over the trees of the operands that are drawn. -/
def node
    (part : Part)
    (id : NodeId)
    (children : List Tree) : Tree where
  id
  tag := part.tag
  type := part.type
  children
  text := part.text
  value := part.value

/-- The tree of a part. -/
def encode : Part -> Fresh Tree
  | claim term => term.encode
  | electable alternative => alternative.encode
  | observation term => term.encode
  | inequality term => term.encode
  | leaf content => content.encode

end Part

/-! ## Places of alternatives -/

/-- Whether the child at a position of a node is an alternative: any child of a choice,
and the second child of an option. -/
def takesLabel
    (type : NodeType)
    (tag : String)
    (position : Nat) : Bool :=
  type == .claim &&
    (tag == ClaimTag.or.name || (tag == ClaimTag.anytime.name && position == 1))

theorem takesLabel_operands
    {term : Claim}
    {operand : Part}
    {position : Nat}
    (here : term.operands[position]? = some operand) :
    takesLabel .claim term.tag.name position = operand.isElectable := by
  have present := List.mem_of_getElem? here
  cases term with
  | zero => simp [Claim.operands] at present
  | and first second others =>
      simp only [Claim.operands, List.mem_cons, List.mem_map] at present
      rcases present with rfl | rfl | ⟨other, _, rfl⟩ <;> rfl
  | or first second others =>
      simp only [Claim.operands, List.mem_cons, List.mem_map] at present
      rcases present with rfl | rfl | ⟨other, _, rfl⟩ <;> rfl
  | anytime predicate electable =>
      rcases position with _ | _ | position
      · obtain rfl := Option.some.inj here
        rfl
      · obtain rfl := Option.some.inj here
        rfl
      · simp [Claim.operands] at here
  | _ =>
      simp only [Claim.operands, List.mem_cons, List.not_mem_nil, or_false] at present
      rcases present with rfl | rfl | rfl <;> rfl

theorem isElectable_eq_false_of_mem_drawn
    {term : Observation}
    {operand : Part}
    (present : operand ∈ (Part.observation term).drawn) :
    operand.isElectable = false := by
  cases term with
  | add left right =>
      cases right <;>
      · simp only [Part.drawn, Observation.operands, List.mem_cons, List.not_mem_nil,
          or_false] at present
        rcases present with rfl | rfl <;> rfl
  | _ =>
      simp only [Part.drawn, Observation.operands, List.mem_cons, List.not_mem_nil,
        or_false] at present
      rcases present with rfl | rfl <;> rfl

theorem isElectable_eq_false_of_mem_operands
    {term : Inequality}
    {operand : Part}
    (present : operand ∈ term.operands) :
    operand.isElectable = false := by
  cases term <;>
  · simp only [Inequality.operands, List.mem_cons, List.not_mem_nil, or_false] at present
    rcases present with rfl | rfl <;> rfl

/-- The alternatives among the operands are those in the places of alternatives. -/
theorem Part.takesLabel_of_drawn
    {part operand : Part}
    {position : Nat}
    (here : part.drawn[position]? = some operand) :
    takesLabel part.type part.tag position = operand.isElectable := by
  have present := List.mem_of_getElem? here
  cases part with
  | claim term => exact takesLabel_operands here
  | electable alternative => exact takesLabel_operands here
  | observation term => exact (isElectable_eq_false_of_mem_drawn present).symm
  | inequality term => exact (isElectable_eq_false_of_mem_operands present).symm
  | leaf content => simp [Part.drawn] at present

/-! ## The node of a part -/

/-- A tree is the one that is written for a part, with some source of identifiers. -/
def Tree.Encodes
    (tree : Tree)
    (part : Part) : Prop :=
  ∃ source, tree = (part.encode.run source).1

theorem Part.encodes_encode
    (part : Part)
    (source : IdSource) :
    (part.encode.run source).1.Encodes part :=
  ⟨source, rfl⟩

namespace Part

/-- The trees of parts, one after the other. -/
def encodeAll : List Part -> Fresh (List Tree)
  | [] => return []
  | part :: rest => do
      let tree <- part.encode
      return tree :: (<- encodeAll rest)

theorem encodeClaims_eq (claims : List Claim) :
    encodeClaims claims = encodeAll (claims.map claim) := by
  induction claims with
  | nil => rfl
  | cons claim rest restHypothesis =>
      rw [encodeClaims, restHypothesis]
      rfl

theorem encodeElectables_eq (electables : List Electable) :
    encodeElectables electables = encodeAll (electables.map electable) := by
  induction electables with
  | nil => rfl
  | cons electable rest restHypothesis =>
      rw [encodeElectables, restHypothesis]
      rfl

theorem encode_claim_eq (term : Claim) :
    term.encode = (do
      let id <- Fresh.id
      return (claim term).node id (<- encodeAll term.operands)) := by
  cases term with
  | and first second others =>
      rw [Claim.encode, encodeClaims_eq]
      rfl
  | or first second others =>
      rw [Claim.encode, encodeElectables_eq]
      rfl
  | _ => rfl

/-- A part is written by drawing an identifier for its node and then writing the operands
that are drawn, one after the other. -/
theorem encode_eq (part : Part) :
    part.encode = (do
      let id <- Fresh.id
      return part.node id (<- encodeAll part.drawn)) := by
  cases part with
  | claim term => exact encode_claim_eq term
  | electable alternative =>
      rcases alternative with ⟨label, term⟩
      change Electable.encode _ = _
      rw [Electable.encode, encode_claim_eq]
      rfl
  | observation term =>
      cases term with
      | add left right => cases right <;> rfl
      | _ => rfl
  | inequality term => cases term <;> rfl
  | leaf content => rfl

theorem encodes_encodeAll
    (parts : List Part)
    (source : IdSource) :
    List.Forall₂ Tree.Encodes ((encodeAll parts).run source).1 parts := by
  induction parts generalizing source with
  | nil => exact .nil
  | cons part rest restHypothesis =>
      exact .cons ⟨source, rfl⟩ (restHypothesis (part.encode.run source).2)

/-- The tree of a part is its node over the trees of the operands that are drawn. -/
theorem exists_node_encode
    (part : Part)
    (source : IdSource) :
    ∃ children, (part.encode.run source).1 = part.node source.peek children ∧
      List.Forall₂ Tree.Encodes children part.drawn := by
  refine ⟨_, ?_, encodes_encodeAll part.drawn (source.skip 1)⟩
  rw [encode_eq]
  rfl

end Part

namespace Tree

/-- The tree of a part, taken apart. -/
theorem Encodes.exists_node
    {tree : Tree}
    {part : Part}
    (encodes : tree.Encodes part) :
    ∃ children, tree = part.node tree.id children ∧
      List.Forall₂ Encodes children part.drawn := by
  obtain ⟨source, rfl⟩ := encodes
  obtain ⟨children, written, operands⟩ := part.exists_node_encode source
  refine ⟨children, ?_, operands⟩
  rw [written]
  rfl

theorem Encodes.type
    {tree : Tree}
    {part : Part}
    (encodes : tree.Encodes part) :
    tree.type = part.type := by
  obtain ⟨children, split, _⟩ := encodes.exists_node
  exact congrArg Tree.type split

theorem Encodes.text
    {tree : Tree}
    {part : Part}
    (encodes : tree.Encodes part) :
    tree.text = part.text := by
  obtain ⟨children, split, _⟩ := encodes.exists_node
  exact congrArg Tree.text split

end Tree
end ContingentClaims
