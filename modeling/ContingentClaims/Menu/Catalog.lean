import ContingentClaims.Json.Basic
import ContingentClaims.Menu.Template

/-!
# Menu catalogs

A catalog is a forest of menu entries for one type of node. An entry is either a
category with entries below it, or a terminal choice with a template. The menu is
shown as columns: the top level, and for every category that is expanded the
entries below it.
-/

namespace ContingentClaims

/-- An entry of a menu. -/
structure MenuEntry where
  id : NodeId
  label : String
  children : List MenuEntry := []
  template : Option Template := none

namespace MenuEntry

/-- A fresh terminal choice. -/
def terminal
    (label : String)
    (template : Template) : Fresh MenuEntry := do
  return { id := <- Fresh.id, label, template := some template }

/-- A fresh category. -/
def category
    (label : String)
    (children : List MenuEntry) : Fresh MenuEntry := do
  return { id := <- Fresh.id, label, children }

/-- Whether an entry has entries below it instead of a template. -/
def isCategory (entry : MenuEntry) : Bool :=
  entry.template.isNone

end MenuEntry

/-! ## Searching and showing entries -/

mutual

/-- The first entry with an identifier, in pre-order. -/
def MenuEntry.find?
    (target : NodeId) : MenuEntry -> Option MenuEntry
  | ⟨id, label, children, template⟩ =>
      if id = target then some ⟨id, label, children, template⟩
      else findEntry? target children
termination_by structural entry => entry

/-- The first entry with an identifier in a forest. -/
def findEntry?
    (target : NodeId) : List MenuEntry -> Option MenuEntry
  | [] => none
  | entry :: rest =>
      match entry.find? target with
      | some found => some found
      | none => findEntry? target rest
termination_by structural entries => entries

end

mutual

/-- The document of an entry; a terminal choice is flagged as such. -/
def MenuEntry.toJson : MenuEntry -> Json
  | ⟨id, label, children, template⟩ =>
      .object [("children", .array (entriesToJson children)), ("id", .string id),
        ("label", .string label), ("terminal", .bool template.isSome)]
termination_by structural entry => entry

/-- The documents of entries in order. -/
def entriesToJson : List MenuEntry -> List Json
  | [] => []
  | entry :: rest => entry.toJson :: entriesToJson rest
termination_by structural entries => entries

end

mutual

/-- The lines of an outline of an entry; categories end in an arrow. -/
def MenuEntry.outline
    (depth : Nat) : MenuEntry -> List String
  | ⟨_, label, children, template⟩ =>
      (String.ofList (List.replicate (2 * depth) ' ') ++ label ++
        if template.isNone then " >" else "") :: outlineEntries (depth + 1) children
termination_by structural entry => entry

/-- The lines of an outline of a forest. -/
def outlineEntries
    (depth : Nat) : List MenuEntry -> List String
  | [] => []
  | entry :: rest => entry.outline depth ++ outlineEntries depth rest
termination_by structural entries => entries

end

/-- The entry with a label in a column. -/
def entryLabelled?
    (column : List MenuEntry)
    (label : String) : Option MenuEntry :=
  column.find? fun entry => entry.label == label

/-- The entry with an identifier in a column. -/
def entryIn?
    (column : List MenuEntry)
    (id : NodeId) : Option MenuEntry :=
  column.find? fun entry => entry.id == id

/-! ## Catalogs -/

/-- The menu entries for one type of node. -/
structure Catalog where
  type : NodeType
  entries : List MenuEntry

namespace Catalog

/-- The first entry with an identifier anywhere in the catalog. -/
def find?
    (catalog : Catalog)
    (id : NodeId) : Option MenuEntry :=
  findEntry? id catalog.entries

/-- Follow labels from an entry down. -/
def descend?
    (entry : MenuEntry) : List String -> Option MenuEntry
  | [] => some entry
  | label :: rest => do
      let next <- entryLabelled? entry.children label
      descend? next rest

/-- Follow a nonempty path of labels from the top level down. -/
def findByLabels?
    (catalog : Catalog) : List String -> Option MenuEntry
  | [] => none
  | label :: rest => do
      let entry <- entryLabelled? catalog.entries label
      descend? entry rest

/-- Follow a path of category identifiers from a column on. Every step must be a
category of the column before. -/
def resolveFrom?
    (column : List MenuEntry) : List NodeId -> Option (List MenuEntry)
  | [] => some []
  | id :: rest => do
      let entry <- entryIn? column id
      if entry.isCategory then
        return entry :: (<- resolveFrom? entry.children rest)
      else
        none

/-- The categories along a path of identifiers. -/
def resolvePath?
    (catalog : Catalog)
    (path : List NodeId) : Option (List MenuEntry) :=
  resolveFrom? catalog.entries path

/-- The columns from a given one on. They end where the path leaves the
categories that are shown. -/
def columnsFrom
    (column : List MenuEntry) : List NodeId -> List (List MenuEntry)
  | [] => [column]
  | id :: rest =>
      match column.find? fun entry => entry.id == id && entry.isCategory with
      | some entry => column :: columnsFrom entry.children rest
      | none => [column]

/-- The columns shown for an expanded path. -/
def columns
    (catalog : Catalog)
    (path : List NodeId) : List (List MenuEntry) :=
  columnsFrom catalog.entries path

/-- The document of a catalog. -/
def toJson (catalog : Catalog) : Json :=
  .object [("entries", .array (entriesToJson catalog.entries)),
    ("kind", .string catalog.type.name)]

/-- The outline of a catalog, a line for each entry. -/
def outline (catalog : Catalog) : List String :=
  outlineEntries 0 catalog.entries

end Catalog
end ContingentClaims
