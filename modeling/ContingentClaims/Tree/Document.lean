import ContingentClaims.Term.Document
import ContingentClaims.Tree.Basic

/-!
# Documents of trees

A node is a record `{id, tag, type, children, text, value}` in a document. The
children may be left out when there are none, text and leaf are left out when
they are absent. A leaf is an object with one field, named for its kind.
-/

namespace ContingentClaims

namespace Leaf

/-- The document of a leaf. -/
def toJson : Leaf -> Json
  | .asset content => .object [("Asset", content.toJson)]
  | .decimal content => .object [("Decimal", content.toJson)]
  | .date content => .object [("Date", content.toJson)]
  | .key content => .object [("Text", .string content)]

/-- The leaf of a document. -/
def ofJson? : Json -> Option Leaf
  | .object [("Asset", content)] => (Asset.ofJson? content).map asset
  | .object [("Decimal", content)] => (Decimal.ofJson? content).map decimal
  | .object [("Date", content)] => (Date.ofJson? content).map date
  | .object [("Text", content)] => content.string?.map key
  | _ => none

/-- The leaf of a node; it may be left out or null. -/
def optionalOfJson? : Option Json -> Option (Option Leaf)
  | none => some none
  | some .null => some none
  | some content => (ofJson? content).map some

end Leaf

namespace NodeType

/-- The node type of a document: its name, possibly given as a choice. -/
def ofJson?
    (value : Json)
    (lenient : Bool) : Option NodeType :=
  (value.choice? lenient).bind ofName?

end NodeType

/-! ## Nodes -/

mutual

/-- The document of a node. Text and leaf are left out when they are absent. -/
def Tree.toJson : Tree -> Json
  | ⟨id, tag, type, children, text, value⟩ =>
      .object (
        [("children", .array (treesToJson children)), ("id", .string id),
          ("tag", .string tag)] ++
        (match text with
          | none => []
          | some text => [("text", .string text)]) ++
        [("type", .string type.name)] ++
        (match value with
          | none => []
          | some leaf => [("value", leaf.toJson)]))
termination_by structural tree => tree

/-- The documents of nodes in order. -/
def treesToJson : List Tree -> List Json
  | [] => []
  | tree :: rest => tree.toJson :: treesToJson rest
termination_by structural trees => trees

end

mutual

/-- Read a node. In a lenient reading the choice of its type is lenient. -/
def Tree.read?
    (lenient : Bool)
    (value : Json) : Option Tree :=
  if value.isRecord 6 then do
    let id <- value.memberText? 0 "id"
    let tag <- value.memberText? 1 "tag"
    let ⟨typeName, _⟩ <- value.member? 2 "type"
    let type <- NodeType.ofJson? typeName lenient
    let text <- value.memberOptionalText? 4 "text"
    let leaf <- Leaf.optionalOfJson? ((value.member? 5 "value").map (·.val))
    match value.member? 3 "children" with
    | none => return ⟨id, tag, type, [], text, leaf⟩
    | some ⟨content, _⟩ => return ⟨id, tag, type, <- readTrees? lenient content, text, leaf⟩
  else
    none
termination_by sizeOf value

/-- Read an array of nodes. -/
def readTrees?
    (lenient : Bool)
    (value : Json) : Option (List Tree) :=
  match value with
  | .array items => readTreeItems? lenient items
  | _ => none
termination_by sizeOf value

/-- Read the items of an array of nodes. -/
def readTreeItems?
    (lenient : Bool)
    (items : List Json) : Option (List Tree) :=
  match items with
  | [] => some []
  | item :: rest => do
      let tree <- Tree.read? lenient item
      return tree :: (<- readTreeItems? lenient rest)
termination_by sizeOf items

end

/-- The tree of a document. -/
def Tree.ofJson? (value : Json) : Option Tree :=
  Tree.read? false value

end ContingentClaims
