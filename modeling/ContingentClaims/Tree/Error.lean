import ContingentClaims.Grammar.Signature
import ContingentClaims.Json.Basic

/-!
# Errors of trees

Why a tree denotes no term: it has an open slot, or one of its nodes has a
defect. An error names the node by identifier and tag.
-/

namespace ContingentClaims

/-- What may be wrong with a node. -/
inductive Defect
  /-- A leaf on a node that is no value node. -/
  | strayLeaf
  /-- An open slot with children. -/
  | filledPlaceholder
  /-- A tag that the grammar does not know for the type. -/
  | unknownTag (type : NodeType)
  /-- A value node with children. -/
  | leafWithChildren
  /-- A leaf of another kind than the tag says. -/
  | wrongLeaf (expected found : LeafKind)
  /-- A value node with a kind in its tag but no leaf. -/
  | missingLeaf
  /-- Another number of operands than the signature has. -/
  | wrongCount (expected found : Nat)
  /-- Fewer operands than the signature asks for. -/
  | tooFew (least found : Nat)
  /-- An operand of another type than its slot. -/
  | operandType (position : Nat) (slot : Slot) (found : NodeType) (operand : NodeId)
  /-- A value node of another kind than its slot. -/
  | operandLeaf (position : Nat) (slot : Slot) (found : String)
  /-- A node of another type than the term that is read from it. -/
  | unexpectedType (expected found : NodeType)
  /-- A node that holds no leaf of the kind that is read from it. -/
  | unexpectedLeaf (expected : LeafKind)
  /-- A node that fits the grammar and holds no leaf where one is read. -/
  | emptyLeaf
  /-- A node that fits the grammar and whose tag and operands form no term. -/
  | unreadable (type : NodeType)
  deriving DecidableEq

namespace Defect

/-- A leaf kind with its article. -/
def withArticle : LeafKind -> String
  | .asset => "an asset"
  | .decimal => "a decimal"
  | .date => "a date"
  | .key => "an observable key"

/-- The defect in words. -/
def message : Defect -> String
  | strayLeaf => "only Value nodes carry a leaf value"
  | filledPlaceholder => "placeholder slot cannot have children"
  | unknownTag type => s!"unknown tag for a {type.name} node"
  | leafWithChildren => "leaf value cannot have children"
  | wrongLeaf expected found =>
      s!"expected {expected.description} value, found {found.tag}"
  | missingLeaf => "leaf has no value"
  | wrongCount expected found => s!"expected {expected} children, found {found}"
  | tooFew least found => s!"expected at least {least} children, found {found}"
  | operandType position slot found operand =>
      s!"operand {position} must be {slot.description}, found {found.name} node {operand}"
  | operandLeaf position slot found =>
      s!"operand {position} must be {slot.description}, found {found} leaf"
  | unexpectedType expected found =>
      s!"expected a {expected.name} node, found {found.name}"
  | unexpectedLeaf expected => s!"expected {withArticle expected} leaf"
  | emptyLeaf => "leaf has no value"
  | unreadable type => s!"unknown tag for a {type.name} node"

end Defect

/-- Why a tree denotes no term. -/
inductive TreeError
  /-- A slot is still open. -/
  | incomplete (id : NodeId) (tag : String)
  /-- A node has a defect. -/
  | invalid (id : NodeId) (tag : String) (defect : Defect)
  deriving DecidableEq

namespace TreeError

/-- The error of a node with a defect. -/
def ofDefect
    (node : Tree)
    (defect : Defect) : TreeError :=
  invalid node.id node.tag defect

/-- The error of an open slot. -/
def ofSlot (node : Tree) : TreeError :=
  incomplete node.id node.tag

/-- The identifier of the node to blame. -/
def nodeId : TreeError -> NodeId
  | incomplete id _ => id
  | invalid id _ _ => id

/-- The tag of the node to blame. -/
def nodeTag : TreeError -> String
  | incomplete _ tag => tag
  | invalid _ tag _ => tag

/-- Whether the error is an open slot. -/
def isIncomplete : TreeError -> Bool
  | incomplete _ _ => true
  | invalid _ _ _ => false

/-- The kind of an error in one word. -/
def kind : TreeError -> String
  | incomplete _ _ => "incomplete"
  | invalid _ _ _ => "invalid"

/-- The error in words. -/
def message : TreeError -> String
  | incomplete id tag => s!"incomplete claim tree: node {id} is an unfilled {tag} slot"
  | invalid id tag defect => s!"invalid claim tree: node {id} ({tag}): {defect.message}"

/-- The error as a document. -/
def toJson (error : TreeError) : Json :=
  .object [("kind", .string error.kind), ("message", .string error.message),
    ("node_id", .string error.nodeId), ("tag", .string error.nodeTag)]

end TreeError
end ContingentClaims
