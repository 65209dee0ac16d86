import ContingentClaims.Term.Basic

/-!
# Trees

A tree is the form in which a term is drawn and edited. Every node has an
identifier, a tag, a type and its children in operand order. Assets, numbers,
dates and observable keys are nodes of their own, the *value* nodes, which carry
a leaf.

A node whose tag is the bare name of its type is a *placeholder*: a slot that
is still open. A value node is one only as long as it carries no leaf.
-/

namespace ContingentClaims

/-- The identifier of a tree node or of a menu entry. -/
abbrev NodeId : Type := String

/-- What a tree node stands for. -/
inductive NodeType
  | claim
  | observation
  | inequality
  | value
  deriving DecidableEq

namespace NodeType

/-- The name of a type, which is also the tag of its placeholders. -/
def name : NodeType -> String
  | claim => "Claim"
  | observation => "Observation"
  | inequality => "Inequality"
  | value => "Value"

/-- Every type. -/
def all : List NodeType :=
  [claim, observation, inequality, value]

/-- The type of a name. -/
def ofName? (text : String) : Option NodeType :=
  all.find? fun type => type.name == text

@[simp] theorem ofName?_name (type : NodeType) : ofName? type.name = some type := by
  cases type <;> decide

end NodeType

/-! ## Leaves -/

/-- The kinds of leaves that a slot may ask for. -/
inductive LeafKind
  | asset
  | decimal
  | date
  | key
  deriving DecidableEq

namespace LeafKind

/-- The tag of a node that carries a leaf of this kind. -/
def tag : LeafKind -> String
  | asset => "Asset"
  | decimal => "Decimal"
  | date => "Date"
  | key => "Value"

/-- Every kind. -/
def all : List LeafKind :=
  [asset, decimal, date, key]

/-- The kind of leaf that nodes of a tag carry. -/
def ofTag? (text : String) : Option LeafKind :=
  all.find? fun kind => kind.tag == text

/-- What a leaf of this kind is called. -/
def description : LeafKind -> String
  | asset => "asset"
  | decimal => "decimal"
  | date => "date"
  | key => "observable key"

@[simp] theorem ofTag?_tag (kind : LeafKind) : ofTag? kind.tag = some kind := by
  cases kind <;> decide

end LeafKind

/-- The content of a value node. -/
inductive Leaf
  | asset (asset : Asset)
  | decimal (value : Decimal)
  | date (date : Date)
  | key (key : String)
  deriving DecidableEq

namespace Leaf

/-- The kind of a leaf. -/
def kind : Leaf -> LeafKind
  | asset _ => .asset
  | decimal _ => .decimal
  | date _ => .date
  | key _ => .key

/-- The tag of the node that carries a leaf. -/
def tag (leaf : Leaf) : String :=
  leaf.kind.tag

/-- The text shown for a leaf. -/
def text : Leaf -> String
  | .asset content => content.id
  | .decimal content => content.text
  | .date content => content.iso
  | .key content => content

/-- Equality up to the numeric value of decimals. -/
def sameValue : Leaf -> Leaf -> Bool
  | asset left, asset right => left == right
  | decimal left, decimal right => left == right
  | date left, date right => left == right
  | key left, key right => left == right
  | _, _ => false

instance : BEq Leaf where
  beq := sameValue

end Leaf

/-! ## Nodes -/

/-- A node with everything below it. The text is shown instead of the tag; it
also holds the label of an alternative and marks a sum drawn as a difference. -/
structure Tree where
  id : NodeId
  tag : String
  type : NodeType
  children : List Tree := []
  text : Option String := none
  value : Option Leaf := none

namespace Tree

/-- A claim node. -/
def claim
    (id : NodeId)
    (tag : ClaimTag)
    (children : List Tree) : Tree where
  id
  tag := tag.name
  type := .claim
  children

/-- An observation node. -/
def observation
    (id : NodeId)
    (tag : ObservationTag)
    (children : List Tree) : Tree where
  id
  tag := tag.name
  type := .observation
  children

/-- An inequality node. -/
def inequality
    (id : NodeId)
    (tag : InequalityTag)
    (children : List Tree) : Tree where
  id
  tag := tag.name
  type := .inequality
  children

/-- The text on a sum that is drawn as a difference. -/
def differenceMark : String := "-"

/-- A value node for a leaf. -/
def ofLeaf
    (id : NodeId)
    (leaf : Leaf) : Tree where
  id
  tag := leaf.tag
  type := .value
  value := some leaf

/-- An open slot for a node of the given type. -/
def placeholder
    (id : NodeId)
    (type : NodeType) : Tree where
  id
  tag := type.name
  type

/-- Show a text on a node. -/
def withText
    (tree : Tree)
    (text : String) : Tree :=
  { tree with text := some text }

/-- Whether a node is an open slot. -/
def isPlaceholder (tree : Tree) : Bool :=
  tree.tag == tree.type.name && (tree.type != .value || tree.value.isNone)

/-- The text to show for a node: its own text, or else that of its leaf, or else
its tag. -/
def label (tree : Tree) : String :=
  match tree.text, tree.value with
  | some text, _ => text
  | none, some leaf => leaf.text
  | none, none => tree.tag

@[simp] theorem isPlaceholder_placeholder
    (id : NodeId)
    (type : NodeType) :
    (placeholder id type).isPlaceholder = true := by
  simp [isPlaceholder, placeholder]

@[simp] theorem isPlaceholder_ofLeaf
    (id : NodeId)
    (leaf : Leaf) :
    (ofLeaf id leaf).isPlaceholder = false := by
  simp [isPlaceholder, ofLeaf]

end Tree
end ContingentClaims
