import ContingentClaims.Json.Basic
import ContingentClaims.Text.Digits
import ContingentClaims.Tree.Basic

/-!
# The schema of tree documents

A stricter form of document than the one that is read: every node is an object
with the fields `id`, `tag` and `type` and at most `children`, `text` and
`value` besides, identifiers and tags are not empty, and numbers and dates are
strings in plain digits. The schema looks at the form alone, not at the grammar.
-/

namespace ContingentClaims
namespace Schema

/-- Digits only, and at least one. -/
def isDigits (text : List Char) : Bool :=
  !text.isEmpty && text.all Digits.isDigit

/-- An optional minus, digits, and optionally a point followed by digits. -/
def isDecimal (text : List Char) : Bool :=
  let unsigned :=
    match text with
    | '-' :: rest => rest
    | _ => text
  let whole := unsigned.takeWhile Digits.isDigit
  match unsigned.dropWhile Digits.isDigit with
  | [] => isDigits whole
  | '.' :: fraction => isDigits whole && isDigits fraction
  | _ => false

/-- Four digits, a dash, two digits, a dash and two digits. -/
def isDate : List Char -> Bool
  | [y1, y2, y3, y4, '-', m1, m2, '-', d1, d2] =>
      isDigits [y1, y2, y3, y4, m1, m2, d1, d2]
  | _ => false

/-- A string that satisfies a condition. -/
def isStringWith
    (condition : List Char -> Bool) : Json -> Bool
  | .string text => condition text.toList
  | _ => false

/-- A string. -/
def isString : Json -> Bool :=
  isStringWith fun _ => true

/-- An object with an `id`, possibly a `version`, and nothing else. -/
def isAsset : Json -> Bool
  | .object fields =>
      (fields.map (·.1)).contains "id" &&
        fields.all fun (name, value) =>
          (name == "id" || name == "version") && isString value
  | _ => false

/-- An object with a single field that is named for the kind of its content. -/
def isLeaf : Json -> Bool
  | .object [("Asset", content)] => isAsset content
  | .object [("Decimal", content)] => isStringWith isDecimal content
  | .object [("Date", content)] => isStringWith isDate content
  | .object [("Text", content)] => isString content
  | _ => false

/-- The name of a node type. -/
def isTypeName : Json -> Bool
  | .string name => (NodeType.ofName? name).isSome
  | _ => false

/-- Whether the mandatory fields of a node are there. -/
def hasMandatory (fields : List (String × Json)) : Bool :=
  let names := fields.map (·.1)
  names.contains "id" && names.contains "tag" && names.contains "type"

mutual

/-- A node. -/
def isNode : Json -> Bool
  | .object fields => hasMandatory fields && areFields fields
  | _ => false
termination_by structural value => value

/-- An array of nodes. -/
def isNodeArray : Json -> Bool
  | .array items => areNodes items
  | _ => false
termination_by structural value => value

/-- Nodes only. -/
def areNodes : List Json -> Bool
  | [] => true
  | item :: rest => isNode item && areNodes rest
termination_by structural items => items

/-- Fields of a node only, each of the form that its name asks for. -/
def areFields : List (String × Json) -> Bool
  | [] => true
  | (name, value) :: rest =>
      (if name = "id" || name = "tag" then isStringWith (!·.isEmpty) value
        else if name = "type" then isTypeName value
        else if name = "children" then isNodeArray value
        else if name = "text" then isString value
        else if name = "value" then isLeaf value
        else false) && areFields rest
termination_by structural fields => fields

end

end Schema
end ContingentClaims
