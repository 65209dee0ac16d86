import ContingentClaims.Encoding
import ContingentClaims.Menu.Standard

/-!
# Editing sessions

A session edits a tree of its own. Its state is the tree, the catalogs and the
source of identifiers, the node whose menu is open with the path of categories
expanded in it, and a lock for read-only use. This module holds the operations
on the menu; none of them changes the tree.
-/

namespace ContingentClaims

/-- The state of an editing session. -/
structure Session where
  root : Tree
  catalogs : Catalogs
  ids : IdSource
  openNode : Option NodeId := none
  path : List NodeId := []
  locked : Bool := false

namespace Session

/-! ## Starting -/

/-- Start from a single open claim slot. -/
def blank
    (catalogs : Catalogs)
    (ids : IdSource) : Session :=
  let (id, ids) := Fresh.id.run ids
  { root := .placeholder id .claim, catalogs, ids }

/-- Start from a term. -/
def ofClaim
    (claim : Claim)
    (catalogs : Catalogs)
    (ids : IdSource) : Session :=
  let (root, ids) := claim.encode.run ids
  { root, catalogs, ids }

/-! ## The menu -/

/-- Close the menu, if it is open. -/
def closeMenu (session : Session) : Session :=
  { session with openNode := none, path := [] }

/-- Switch read-only use on or off. The lock closes the menu. -/
def setLocked
    (session : Session)
    (locked : Bool) : Session :=
  let session := { session with locked }
  if locked then session.closeMenu else session

/-- Open the menu of a node. Nothing happens if the session is locked, if the
menu is open already, and if the node is missing or a value node. -/
def openMenu
    (session : Session)
    (id : NodeId) : Session :=
  if session.locked || session.openNode == some id then
    session
  else
    match session.root.find? id with
    | none => session
    | some node =>
        if node.type = .value then session
        else { session with openNode := some id, path := [] }

/-- A click on a node opens its menu or closes it. -/
def click
    (session : Session)
    (id : NodeId) : Session :=
  if session.openNode == some id then session.closeMenu else session.openMenu id

/-- The catalog of the open menu. -/
def menu? (session : Session) : Option Catalog := do
  let id <- session.openNode
  let node <- session.root.find? id
  session.catalogs.forType? node.type

/-- The columns of the open menu; none if no menu is open. -/
def menuColumns (session : Session) : List (List MenuEntry) :=
  match session.menu? with
  | some catalog => catalog.columns session.path
  | none => []

/-- Replace the path of expanded categories, if it leads through categories of
the open menu. -/
def expand
    (session : Session)
    (path : List NodeId) : Session × Bool :=
  match session.menu? with
  | none => (session, false)
  | some catalog =>
      match catalog.resolvePath? path with
      | none => (session, false)
      | some _ => ({ session with path }, true)

/-- Expand a category of a column: cut the path at the column and extend it. -/
def hover
    (session : Session)
    (depth : Nat)
    (entry : NodeId) : Session × Bool :=
  session.expand (session.path.take depth ++ [entry])

end Session
end ContingentClaims
