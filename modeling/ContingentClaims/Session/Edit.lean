import ContingentClaims.Decoding
import ContingentClaims.Session.Basic

/-!
# Editing the tree of a session

Every change of the tree's structure goes through `Session.replace`, which keeps
the tree valid and its identifiers distinct: it refuses a subtree that breaks the
grammar, that does not fit its slot, or that brings an identifier in use
elsewhere. The replaced node keeps its identifier.
-/

namespace ContingentClaims

/-! ## Replacing a node -/

namespace Tree

/-- The identifiers below the root. -/
def idsBelow (tree : Tree) : List NodeId :=
  tree.ids.drop 1

/-- The first identifier below the root of a subtree that would occur twice if
the subtree took the place of `target` in the tree. -/
def clash?
    (root target subtree : Tree) : Option NodeId :=
  let leaving := target.idsBelow
  let staying := root.ids.filter fun id => id ∉ leaving
  firstRepeated? staying subtree.idsBelow

/-- Whether a node is an alternative: a child of an `Or`, or the second child of
an `Anytime`. -/
def isElectable
    (root : Tree)
    (id : NodeId) : Bool :=
  match root.parentOf? id with
  | some (parent, position) =>
      parent.type == .claim &&
        (parent.tag == ClaimTag.or.name ||
          (parent.tag == ClaimTag.anytime.name && position == 1))
  | none => false

/-- Whether a subtree may stand where a node stands: it fits the slot, or where
there is no slot it has the type of the node. -/
def fitsAt
    (root target subtree : Tree) : Bool :=
  match root.slotOf? target.id with
  | some slot => slot.accepts subtree
  | none => subtree.type == target.type

/-- Take over everything of a subtree but its identifier, and its text unless the
old one is kept. -/
def takeOver
    (subtree : Tree)
    (keepText : Bool)
    (node : Tree) : Tree :=
  { subtree with
    id := node.id
    text := if keepText then node.text else subtree.text }

/-- The tree with a subtree in the place of a node, if the subtree is admissible
there. An alternative keeps its label unless the subtree brings one. -/
def splice?
    (root : Tree)
    (id : NodeId)
    (subtree : Tree) : Option Tree :=
  match root.find? id with
  | none => none
  | some target =>
      if subtree.isValid && root.fitsAt target subtree &&
          (root.clash? target subtree).isNone then
        let keepText := subtree.text.isNone && root.isElectable id
        root.update? id (subtree.takeOver keepText)
      else
        none

/-! ## Renaming an alternative -/

/-- The tree with another label on an alternative; `none` if the node is no
alternative or has the label already. -/
def relabel?
    (root : Tree)
    (id : NodeId)
    (label : String) : Option Tree :=
  match root.find? id with
  | none => none
  | some node =>
      if root.isElectable id && node.text != some label then
        root.update? id (·.withText label)
      else
        none

end Tree

namespace Session

/-- Put a subtree in the place of a node. The menu closes on success. -/
def replace
    (session : Session)
    (id : NodeId)
    (subtree : Tree) : Session × Bool :=
  match session.root.splice? id subtree with
  | some root => ({ session with root }.closeMenu, true)
  | none => (session, false)

/-- Run the template of a terminal entry of the open menu and put its tree in the
place of the open node. -/
def select
    (session : Session)
    (entry : NodeId) : Session × Bool :=
  let template? := do
    let catalog <- session.menu?
    let entry <- catalog.find? entry
    entry.template
  match session.openNode, template? with
  | some target, some template =>
      let (subtree, ids) := template.run session.ids
      { session with ids }.replace target subtree
  | _, _ => (session, false)

/-- Rename an alternative. Nothing changes if the session is locked, if the node
is no alternative, or if it has the label already. -/
def setLabel
    (session : Session)
    (id : NodeId)
    (label : String) : Session × Bool :=
  if session.locked then
    (session, false)
  else
    match session.root.relabel? id label with
    | some root => ({ session with root }, true)
    | none => (session, false)

/-- Read the tree as a claim. -/
def submit (session : Session) : Except TreeError Claim :=
  session.root.decodeClaim

end Session
end ContingentClaims
