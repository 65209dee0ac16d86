import ContingentClaims.Decimal.Literal
import ContingentClaims.Session.Edit
import ContingentClaims.Text.Blank

/-!
# Typing into value nodes

A literal that is typed into a value node must suit the kind of leaf that the
node's slot asks for. Blanks around it are ignored. Numbers are decimal literals
in plain or scientific notation and dates are in ISO form; assets and keys are any
text that is not empty.
-/

namespace ContingentClaims

/-- Why typed input is refused. -/
inductive LeafInputError
  | invalidDecimal (literal : String)
  | invalidDate (literal : String)
  | empty (kind : LeafKind)
  | notALeaf (id : NodeId)
  | wrongKind (id : NodeId) (expected found : LeafKind)
  deriving DecidableEq

namespace LeafInputError

/-- The refusal in words. -/
def message : LeafInputError -> String
  | invalidDecimal literal => s!"'{literal}' is not a decimal"
  | invalidDate literal => s!"'{literal}' is not an ISO date (YYYY-MM-DD)"
  | empty kind => s!"{kind.description} cannot be empty"
  | notALeaf id => s!"node {id} is not a value leaf"
  | wrongKind id expected found =>
      s!"node {id} holds a {expected.description} value, " ++
        s!"not a {found.description} value"

end LeafInputError

/-- Read a literal as a leaf of a kind. -/
def Leaf.ofLiteral
    (kind : LeafKind)
    (literal : String) : Except LeafInputError Leaf :=
  let trimmed := Text.trimChars literal.toList
  if trimmed.isEmpty then
    .error (.empty kind)
  else
    match kind with
    | .decimal =>
        match Decimal.ofLiteral? trimmed with
        | some value => .ok (.decimal value)
        | none => .error (.invalidDecimal literal)
    | .date =>
        match Date.ofIsoChars? trimmed with
        | some day => .ok (.date day)
        | none => .error (.invalidDate literal)
    | .asset => .ok (.asset { id := String.ofList trimmed })
    | .key => .ok (.key (String.ofList trimmed))

/-- The node of a leaf that was typed in. It shows a text if the leaf is an asset: the
identifier of the asset. -/
def Leaf.typedNode
    (leaf : Leaf)
    (id : NodeId) : Tree :=
  let text :=
    match leaf with
    | .asset content => some content.id
    | _ => none
  { Tree.ofLeaf id leaf with text }

namespace Session

/-- Why a node takes no input of a kind, if it does not. -/
def inputError?
    (session : Session)
    (target : Tree)
    (kind : LeafKind) : Option LeafInputError :=
  if target.type ≠ .value then
    some (.notALeaf target.id)
  else
    match session.root.slotOf? target.id with
    | some (.leaf expected) =>
        if expected = kind then none else some (.wrongKind target.id expected kind)
    | _ => none

/-- Commit a literal to a value node. The flag is false if the node is missing. -/
def setLeaf
    (session : Session)
    (id : NodeId)
    (kind : LeafKind)
    (literal : String) : Session × Except LeafInputError Bool :=
  match session.root.find? id with
  | none => (session, .ok false)
  | some target =>
      match session.inputError? target kind, Leaf.ofLiteral kind literal with
      | some error, _ => (session, .error error)
      | none, .error error => (session, .error error)
      | none, .ok leaf =>
          let (fresh, ids) := Fresh.id.run session.ids
          let (session, changed) := { session with ids }.replace id (leaf.typedNode fresh)
          (session, .ok changed)

end Session
end ContingentClaims
