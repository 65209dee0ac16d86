import ContingentClaims.Text.Quoted
import ContingentClaims.Tree.Document

/-!
# Steps of an editing script

A script is an array of steps. A step is an object whose field `op` names what to
do, or an array of that name and the step's arguments in order. A step without a
`node` acts on the first open slot. This module reads steps and describes them
for messages.
-/

namespace ContingentClaims

/-- A step of a script. -/
inductive Step
  /-- Open the menu of a node. -/
  | openMenu (node : Option NodeId)
  /-- Expand a category of a column. -/
  | hover (depth : Nat) (label : String)
  /-- Choose an entry of the last column. -/
  | select (label : String)
  /-- Open a menu, expand categories and choose an entry. -/
  | choose (node : Option NodeId) (path : List String)
  /-- Type a literal into a value node. -/
  | set (node : Option NodeId) (kind : LeafKind) (literal : String)
  /-- Rename an alternative. -/
  | relabel (node : NodeId) (label : String)
  /-- Put a subtree in the place of a node. -/
  | replace (node : Option NodeId) (tree : Tree)
  | close
  | lock

/-! ## Reading -/

/-- The name of a leaf kind in a script. -/
def LeafKind.argument : LeafKind -> String
  | .asset => "asset"
  | .decimal => "decimal"
  | .date => "date"
  | .key => "key"

/-- The leaf kind of an argument. -/
def LeafKind.ofArgument? (text : String) : Option LeafKind :=
  all.find? fun kind => kind.argument == text

namespace Step

/-- The operation of a step. -/
def op? : Json -> Option String
  | .object fields => (Json.lookup "op" fields).bind Json.string?
  | .array (op :: _) => op.string?
  | _ => none

/-- The arguments of a step in order. In an object an argument may be missing; an
array has all of them and no more. -/
def arguments?
    (names : List String) : Json -> Option (List (Option Json))
  | .object fields => some (names.map fun name => Json.lookup name fields)
  | .array (_ :: rest) =>
      if rest.length = names.length then some (rest.map some) else none
  | _ => none

/-- A text argument that must be present. -/
def textArgument? (argument : Option Json) : Option String :=
  argument.bind Json.string?

/-- A list of texts. -/
def textsArgument? : Option Json -> Option (List String)
  | some (.array items) => items.mapM Json.string?
  | _ => none

/-- A leaf kind. -/
def kindArgument? (argument : Option Json) : Option LeafKind := do
  let name <- (<- argument).choice? true
  LeafKind.ofArgument? name

/-- Read a step. -/
def ofJson? (value : Json) : Option Step := do
  let op <- op? value
  match op with
  | "open" =>
      match <- arguments? ["node"] value with
      | [node] => return .openMenu (<- Json.optionalText? node)
      | _ => none
  | "hover" =>
      match <- arguments? ["depth", "label"] value with
      | [depth, label] =>
          return .hover (<- depth.bind Json.natural?) (<- textArgument? label)
      | _ => none
  | "select" =>
      match <- arguments? ["label"] value with
      | [label] => return .select (<- textArgument? label)
      | _ => none
  | "choose" =>
      match <- arguments? ["node", "path"] value with
      | [node, path] =>
          return .choose (<- Json.optionalText? node) (<- textsArgument? path)
      | _ => none
  | "set" =>
      match <- arguments? ["node", "kind", "literal"] value with
      | [node, kind, literal] =>
          return .set (<- Json.optionalText? node) (<- kindArgument? kind)
            (<- textArgument? literal)
      | _ => none
  | "label" =>
      match <- arguments? ["node", "label"] value with
      | [node, label] => return .relabel (<- textArgument? node) (<- textArgument? label)
      | _ => none
  | "replace" =>
      match <- arguments? ["node", "tree"] value with
      | [node, tree] =>
          return .replace (<- Json.optionalText? node) (<- Tree.read? true (<- tree))
      | _ => none
  | "close" => do
      let _ <- arguments? [] value
      return .close
  | "lock" => do
      let _ <- arguments? [] value
      return .lock
  | _ => none

/-- Read a script. -/
def listOfJson? : Json -> Option (List Step)
  | .array items => items.mapM ofJson?
  | _ => none

end Step

/-! ## Describing -/

/-- A record in a description: a name and its fields in braces. -/
def describeRecord
    (name : String)
    (fields : List (String × String)) : String :=
  let body := ", ".intercalate (fields.map fun (field, content) => field ++ ": " ++ content)
  name ++ " \x7b " ++ body ++ " \x7d"

/-- A wrapped value in a description. -/
def describeWrapped (name content : String) : String :=
  name ++ "(" ++ content ++ ")"

/-- An optional value in a description. -/
def describeOption : Option String -> String
  | none => "None"
  | some content => describeWrapped "Some" content

/-- A list in a description. -/
def describeList (items : List String) : String :=
  "[" ++ ", ".intercalate items ++ "]"

/-- An identifier in a description. -/
def describeId (id : NodeId) : String :=
  describeWrapped "NodeId" (Text.quoted id)

/-- A leaf kind in a description. -/
def LeafKind.describe : LeafKind -> String
  | .asset => "Asset"
  | .decimal => "Decimal"
  | .date => "Date"
  | .key => "Key"

/-- An asset in a description. -/
def Asset.describe (asset : Asset) : String :=
  describeRecord "AssetRef" [("id", Text.quoted asset.id),
    ("version", describeOption (asset.version.map Text.quoted))]

/-- A leaf in a description. -/
def Leaf.describe : Leaf -> String
  | .asset content => describeWrapped "Asset" content.describe
  | .decimal content => describeWrapped "Decimal" content.text
  | .date content => describeWrapped "Date" content.iso
  | .key content => describeWrapped "Text" (Text.quoted content)

mutual

/-- A tree in a description, all of its fields in order. -/
def Tree.describe : Tree -> String
  | ⟨id, tag, type, children, text, value⟩ =>
      describeRecord "TreeNode" [("id", describeId id), ("tag", Text.quoted tag),
        ("node_type", type.name), ("children", describeList (describeTrees children)),
        ("text", describeOption (text.map Text.quoted)),
        ("value", describeOption (value.map Leaf.describe))]
termination_by structural tree => tree

/-- Trees in a description, in order. -/
def describeTrees : List Tree -> List String
  | [] => []
  | tree :: rest => tree.describe :: describeTrees rest
termination_by structural trees => trees

end

namespace Step

/-- A step as it is named in messages. -/
def describe : Step -> String
  | openMenu node => describeRecord "Open" [("node", describeOption (node.map describeId))]
  | hover depth label =>
      describeRecord "Hover" [("depth", toString depth), ("label", Text.quoted label)]
  | select label => describeRecord "Select" [("label", Text.quoted label)]
  | choose node path =>
      describeRecord "Choose" [("node", describeOption (node.map describeId)),
        ("path", describeList (path.map Text.quoted))]
  | set node kind literal =>
      describeRecord "Set" [("node", describeOption (node.map describeId)),
        ("kind", kind.describe), ("literal", Text.quoted literal)]
  | relabel node label =>
      describeRecord "Label" [("node", describeId node), ("label", Text.quoted label)]
  | replace node tree =>
      describeRecord "Replace" [("node", describeOption (node.map describeId)),
        ("tree", tree.describe)]
  | close => "Close"
  | lock => "Lock"

end Step
end ContingentClaims
