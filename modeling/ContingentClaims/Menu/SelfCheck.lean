import ContingentClaims.Grammar.Check
import ContingentClaims.Menu.Catalog

/-!
# Self-check of catalogs

The rules that a catalog keeps: identifiers of entries are distinct, an entry is
either a category that is not empty or a terminal choice, and every template
yields a valid tree of the catalog's type with distinct identifiers. The check
visits the entries with a stack, the last entry of a column first, and runs every
template on the way.
-/

namespace ContingentClaims

/-- A rule that a catalog breaks. -/
inductive CatalogError
  | emptyCategory (label : String)
  | ambiguousEntry (label : String)
  | duplicateEntry (id : NodeId)
  | wrongType (label : String) (expected found : NodeType)
  | malformed (label : String) (error : TreeError)
  | duplicateNodeId (label : String) (id : NodeId)
  deriving DecidableEq

namespace CatalogError

/-- The broken rule in words. -/
def message : CatalogError -> String
  | emptyCategory label => s!"menu entry '{label}': category has no entries"
  | ambiguousEntry label =>
      s!"menu entry '{label}': must be either a category or a constructor, " ++
        "not both or neither"
  | duplicateEntry id => s!"menu entry id {id} is used more than once"
  | wrongType label expected found =>
      s!"menu entry '{label}': constructor yields a {found.name} node " ++
        s!"in the {expected.name} catalog"
  | malformed label error =>
      s!"menu entry '{label}': constructor output violates the grammar: {error.message}"
  | duplicateNodeId label id => s!"menu entry '{label}': constructor reuses node id {id}"

end CatalogError

/-- The first item of a list that occurs before, given those seen already. -/
def firstRepeated?
    (seen : List NodeId) : List NodeId -> Option NodeId
  | [] => none
  | id :: rest => if id ∈ seen then some id else firstRepeated? (id :: seen) rest

mutual

/-- The number of entries at and below an entry. -/
def MenuEntry.count : MenuEntry -> Nat
  | ⟨_, _, children, _⟩ => countEntries children + 1
termination_by structural entry => entry

/-- The number of entries of a forest. -/
def countEntries : List MenuEntry -> Nat
  | [] => 0
  | entry :: rest => entry.count + countEntries rest
termination_by structural entries => entries

end

theorem MenuEntry.count_eq (entry : MenuEntry) :
    entry.count = countEntries entry.children + 1 := by
  cases entry
  rfl

theorem countEntries_append
    (front back : List MenuEntry) :
    countEntries (front ++ back) = countEntries front + countEntries back := by
  induction front with
  | nil => simp [countEntries]
  | cons entry rest restHypothesis =>
      simp only [List.cons_append, countEntries, restHypothesis]
      omega

theorem countEntries_reverse (entries : List MenuEntry) :
    countEntries entries.reverse = countEntries entries := by
  induction entries with
  | nil => rfl
  | cons entry rest restHypothesis =>
      simp only [List.reverse_cons, countEntries_append, restHypothesis, countEntries]
      omega

/-- Put the entries below an entry on a stack, the last one on top. -/
def MenuEntry.pushChildren
    (entry : MenuEntry)
    (stack : List MenuEntry) : List MenuEntry :=
  entry.children.reverse ++ stack

theorem MenuEntry.countEntries_pushChildren
    (entry : MenuEntry)
    (stack : List MenuEntry) :
    countEntries (entry.pushChildren stack) + 1 = countEntries (entry :: stack) := by
  simp only [pushChildren, countEntries_append, countEntries_reverse, countEntries,
    MenuEntry.count_eq]
  omega

namespace Catalog

/-- Check the tree that a template yields. -/
def yieldError?
    (type : NodeType)
    (label : String)
    (tree : Tree) : Option CatalogError :=
  if tree.type ≠ type then
    some (.wrongType label type tree.type)
  else
    match tree.validate with
    | .error error => some (.malformed label error)
    | .ok () => (firstRepeated? [] tree.ids).map (.duplicateNodeId label)

/-- Check the entries of a stack, given the identifiers seen so far. -/
def checkStack
    (type : NodeType)
    (seen : List NodeId)
    (stack : List MenuEntry) : Fresh (Except CatalogError Unit) :=
  match stack with
  | [] => return .ok ()
  | entry :: rest =>
      if entry.id ∈ seen then
        return .error (.duplicateEntry entry.id)
      else
        match entry.template with
        | none =>
            if entry.children.isEmpty then
              return .error (.emptyCategory entry.label)
            else
              checkStack type (entry.id :: seen) (entry.pushChildren rest)
        | some template =>
            if entry.children.isEmpty then do
              let tree <- template
              match yieldError? type entry.label tree with
              | some error => return .error error
              | none => checkStack type (entry.id :: seen) rest
            else
              return .error (.ambiguousEntry entry.label)
  termination_by countEntries stack
  decreasing_by
    · have := entry.countEntries_pushChildren rest
      omega
    · simp only [countEntries, MenuEntry.count_eq]
      omega

/-- Check every rule of a catalog. -/
def selfCheck (catalog : Catalog) : Fresh (Except CatalogError Unit) :=
  checkStack catalog.type [] catalog.entries.reverse

end Catalog
end ContingentClaims
