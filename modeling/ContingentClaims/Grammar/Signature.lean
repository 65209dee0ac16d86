import ContingentClaims.Tree.Basic

/-!
# Signatures

The grammar of trees in one table: for every node type and tag, the operands
that a node has, or the kind of leaf that it carries.
-/

namespace ContingentClaims

/-- What an operand position asks for. -/
inductive Slot
  | claim
  | observation
  | inequality
  | leaf (kind : LeafKind)
  deriving DecidableEq

namespace Slot

/-- The type of the nodes that may occupy a slot. -/
def type : Slot -> NodeType
  | claim => .claim
  | observation => .observation
  | inequality => .inequality
  | leaf _ => .value

/-- What a slot asks for, in words. -/
def description : Slot -> String
  | leaf kind => kind.description ++ " value"
  | slot => slot.type.name

/-- Whether a node may occupy a slot. A placeholder of the right type always
may. -/
def accepts
    (slot : Slot)
    (node : Tree) : Bool :=
  node.type == slot.type &&
    match slot with
    | leaf kind => node.isPlaceholder || node.tag == kind.tag
    | _ => true

end Slot

/-- The operands or the leaf of a node. -/
inductive Signature
  /-- Exactly these operands in this order. -/
  | fixed (slots : List Slot)
  /-- Operands of one slot, as many as `least` or more. -/
  | variadic (slot : Slot) (least : Nat)
  /-- No operands but a leaf. -/
  | leaf (kind : LeafKind)
  deriving DecidableEq

namespace Signature

/-- The slot of an operand position. -/
def slotAt? : Signature -> Nat -> Option Slot
  | fixed slots, position => slots[position]?
  | variadic slot _, _ => some slot
  | leaf _, _ => none

end Signature

/-! ## The table -/

/-- The operands of claims. A choice has claims for its alternatives, which carry
their labels as texts. -/
def ClaimTag.signature : ClaimTag -> Signature
  | zero => .fixed []
  | one => .fixed [.leaf .asset]
  | give => .fixed [.claim]
  | and => .variadic .claim 2
  | or => .variadic .claim 2
  | cond => .fixed [.inequality, .claim, .claim]
  | scale => .fixed [.observation, .claim]
  | whenHolds => .fixed [.inequality, .claim]
  | untilHolds => .fixed [.inequality, .claim]
  | anytime => .fixed [.inequality, .claim]

/-- The operands of observations. -/
def ObservationTag.signature : ObservationTag -> Signature
  | const => .fixed [.leaf .decimal]
  | observe => .fixed [.leaf .key]
  | observeAt => .fixed [.leaf .key, .leaf .date]
  | add => .fixed [.observation, .observation]
  | sub => .fixed [.observation, .observation]
  | neg => .fixed [.observation]
  | mul => .fixed [.observation, .observation]
  | div => .fixed [.observation, .observation]

/-- The operands of inequalities. -/
def InequalityTag.signature : InequalityTag -> Signature
  | timeGte => .fixed [.leaf .date]
  | timeLte => .fixed [.leaf .date]
  | lte => .fixed [.observation, .observation]

/-- The signature of a tag under a node type; `none` for an unknown tag. -/
def Signature.of?
    (type : NodeType)
    (tag : String) : Option Signature :=
  match type with
  | .claim => (ClaimTag.ofName? tag).map ClaimTag.signature
  | .observation => (ObservationTag.ofName? tag).map ObservationTag.signature
  | .inequality => (InequalityTag.ofName? tag).map InequalityTag.signature
  | .value => (LeafKind.ofTag? tag).map .leaf

end ContingentClaims
