import ContingentClaims.Proofs.Menu.Skeletons

/-!
# Walking through a catalog

A path of categories shows one column more than it has steps, the last one below the last
category. Walking along labels column by column leads to the entry that the labels name
from the first column down.
-/

namespace ContingentClaims
namespace Catalog

/-! ## Columns -/

/-- The column below the last one of some categories, or the first column if there are
none. -/
def columnBelow
    (column : List MenuEntry) : List MenuEntry -> List MenuEntry
  | [] => column
  | category :: rest => columnBelow category.children rest

/-- Another category is expanded at the end. -/
theorem columnBelow_concat
    (column categories : List MenuEntry)
    (category : MenuEntry) :
    columnBelow column (categories ++ [category]) = category.children := by
  induction categories generalizing column with
  | nil => rfl
  | cons first rest restHypothesis => exact restHypothesis first.children

theorem resolveFrom?_cons_eq_some_iff
    (column : List MenuEntry)
    (id : NodeId)
    (rest : List NodeId)
    (categories : List MenuEntry) :
    resolveFrom? column (id :: rest) = some categories ↔
      ∃ category others, entryIn? column id = some category ∧ category.isCategory = true ∧
        resolveFrom? category.children rest = some others ∧ categories = category :: others := by
  rw [resolveFrom?]
  cases entryIn? column id with
  | none => simp
  | some category =>
      cases isCategory : category.isCategory with
      | false => simp [isCategory]
      | true =>
          cases below : resolveFrom? category.children rest with
          | none => simp [isCategory, below]
          | some others =>
              simp only [Option.bind_eq_bind, Option.bind_some, isCategory, if_true, below,
                Option.pure_def, Option.some.injEq, true_and, exists_and_left, exists_eq_left']
              exact eq_comm

/-- Every category along a path has a step of the path. -/
theorem length_of_resolveFrom?
    {column categories : List MenuEntry}
    {path : List NodeId}
    (resolved : resolveFrom? column path = some categories) :
    categories.length = path.length := by
  induction path generalizing column categories with
  | nil =>
      obtain rfl := Option.some.inj resolved
      rfl
  | cons id rest restHypothesis =>
      obtain ⟨category, others, _, _, below, rfl⟩ :=
        (resolveFrom?_cons_eq_some_iff _ _ _ _).1 resolved
      rw [List.length_cons, List.length_cons, restHypothesis below]

/-- What is in front of a path that resolves resolves to the categories in front. -/
theorem resolveFrom?_take
    {column categories : List MenuEntry}
    {path : List NodeId}
    (resolved : resolveFrom? column path = some categories)
    (depth : Nat) :
    resolveFrom? column (path.take depth) = some (categories.take depth) := by
  induction path generalizing column categories depth with
  | nil =>
      obtain rfl := Option.some.inj resolved
      rw [List.take_nil, List.take_nil]
      rfl
  | cons id rest restHypothesis =>
      cases depth with
      | zero => rfl
      | succ depth =>
          obtain ⟨category, others, isIn, isCategory, below, rfl⟩ :=
            (resolveFrom?_cons_eq_some_iff _ _ _ _).1 resolved
          rw [List.take_succ_cons, List.take_succ_cons, resolveFrom?_cons_eq_some_iff]
          exact ⟨category, _, isIn, isCategory, restHypothesis below depth, rfl⟩

/-- The columns of a path of categories. -/
theorem columnsFrom_of_resolveFrom?
    {column categories : List MenuEntry}
    {path : List NodeId}
    (resolved : resolveFrom? column path = some categories) :
    columnsFrom column path = column :: categories.map (·.children) := by
  induction path generalizing column categories with
  | nil =>
      obtain rfl := Option.some.inj resolved
      rfl
  | cons id rest restHypothesis =>
      obtain ⟨category, others, isIn, isCategory, below, rfl⟩ :=
        (resolveFrom?_cons_eq_some_iff _ _ _ _).1 resolved
      have shown : column.find? (fun entry => entry.id == id && entry.isCategory) =
          some category := by
        obtain ⟨named, before, behind, split, others⟩ := List.find?_eq_some_iff_append.1 isIn
        apply List.find?_eq_some_iff_append.2
        refine ⟨by rw [named, isCategory]; rfl, before, behind, split, ?_⟩
        intro earlier present
        simp only [others earlier present, Bool.not_and, Bool.true_or]
      rw [columnsFrom, shown]
      simp [restHypothesis below]

/-- The last column is the one below the path. -/
theorem getLast?_columnsFrom
    {column categories : List MenuEntry}
    {path : List NodeId}
    (resolved : resolveFrom? column path = some categories) :
    (columnsFrom column path).getLast? = some (columnBelow column categories) := by
  rw [columnsFrom_of_resolveFrom? resolved]
  clear resolved
  induction categories generalizing column with
  | nil => rfl
  | cons category rest restHypothesis =>
      rw [List.map_cons, List.getLast?_cons_cons]
      exact restHypothesis

/-- A column of a path is the one below the categories in front of it. -/
theorem getElem?_columnsFrom_take
    {column categories : List MenuEntry}
    {path : List NodeId}
    (resolved : resolveFrom? column path = some categories)
    {depth : Nat}
    (inside : depth ≤ path.length) :
    (columnsFrom column path)[depth]? = some (columnBelow column (categories.take depth)) := by
  rw [← length_of_resolveFrom? resolved] at inside
  rw [columnsFrom_of_resolveFrom? resolved]
  clear resolved
  induction categories generalizing column depth with
  | nil =>
      obtain rfl := Nat.le_zero.1 inside
      rfl
  | cons category rest restHypothesis =>
      cases depth with
      | zero => rfl
      | succ depth =>
          rw [List.map_cons, List.getElem?_cons_succ]
          exact restHypothesis (Nat.le_of_succ_le_succ inside)

/-- The last column is the one behind as many others as the path has steps. -/
theorem getElem?_columnsFrom
    {column categories : List MenuEntry}
    {path : List NodeId}
    (resolved : resolveFrom? column path = some categories) :
    (columnsFrom column path)[path.length]? = some (columnBelow column categories) := by
  rw [getElem?_columnsFrom_take resolved (Nat.le_refl _), ← length_of_resolveFrom? resolved,
    List.take_length]

/-- The first column is always shown. -/
theorem getElem?_columnsFrom_zero
    (column : List MenuEntry)
    (path : List NodeId) :
    (columnsFrom column path)[0]? = some column := by
  cases path with
  | nil => rfl
  | cons id rest =>
      rw [columnsFrom]
      split <;> rfl

/-- A path goes on in the column below it. -/
theorem resolveFrom?_concat
    {column categories : List MenuEntry}
    {path : List NodeId}
    (resolved : resolveFrom? column path = some categories)
    (id : NodeId) :
    resolveFrom? column (path ++ [id]) =
      (resolveFrom? (columnBelow column categories) [id]).map (categories ++ ·) := by
  induction path generalizing column categories with
  | nil =>
      obtain rfl := Option.some.inj resolved
      simp [columnBelow]
  | cons first rest restHypothesis =>
      obtain ⟨category, others, isIn, isCategory, below, rfl⟩ :=
        (resolveFrom?_cons_eq_some_iff _ _ _ _).1 resolved
      rw [List.cons_append, resolveFrom?, isIn, Option.bind_eq_bind, Option.bind_some,
        if_pos isCategory, restHypothesis below, columnBelow]
      cases resolveFrom? (columnBelow category.children others) [id] <;> rfl

/-! ## Entries of a column -/

/-- What is below an entry of a forest is in the forest. -/
theorem mem_allEntries_of_mem_children
    {column : List MenuEntry}
    {entry child : MenuEntry}
    (present : entry ∈ allEntries column)
    (isChild : child ∈ allEntries entry.children) :
    child ∈ allEntries column := by
  match column with
  | [] => cases present
  | first :: rest =>
      rw [allEntries_cons, List.cons_append, List.mem_cons, List.mem_append] at present ⊢
      rcases present with rfl | inside | behind
      · exact Or.inr (Or.inl isChild)
      · exact Or.inr (Or.inl (mem_allEntries_of_mem_children inside isChild))
      · exact Or.inr (Or.inr (mem_allEntries_of_mem_children behind isChild))
termination_by (allEntries column).length
decreasing_by
  all_goals
    simp only [allEntries_cons, List.length_cons, List.length_append]
    omega

theorem mem_allEntries_of_mem
    {column : List MenuEntry}
    {entry : MenuEntry}
    (present : entry ∈ column) :
    entry ∈ allEntries column := by
  induction column with
  | nil => cases present
  | cons first rest restHypothesis =>
      rw [allEntries_cons, List.cons_append, List.mem_cons, List.mem_append]
      rcases List.mem_cons.1 present with rfl | behind
      · exact Or.inl rfl
      · exact Or.inr (Or.inr (restHypothesis behind))

/-- The entries below a path are entries of the forest that it goes through. -/
theorem mem_allEntries_of_mem_columnBelow
    {column categories : List MenuEntry}
    {path : List NodeId}
    {entry : MenuEntry}
    (resolved : resolveFrom? column path = some categories)
    (present : entry ∈ columnBelow column categories) :
    entry ∈ allEntries column := by
  induction path generalizing column categories with
  | nil =>
      obtain rfl := Option.some.inj resolved
      exact mem_allEntries_of_mem present
  | cons id rest restHypothesis =>
      obtain ⟨category, others, isIn, _, below, rfl⟩ :=
        (resolveFrom?_cons_eq_some_iff _ _ _ _).1 resolved
      have isEntry := mem_allEntries_of_mem (List.mem_of_find?_eq_some isIn)
      exact mem_allEntries_of_mem_children isEntry (restHypothesis below present)

/-- Under distinct identifiers, an entry of a column is found in it by its own one. -/
theorem entryIn?_of_mem
    {catalog : Catalog}
    {column : List MenuEntry}
    {entry : MenuEntry}
    (distinct : catalog.IsDistinct)
    (shown : ∀ other ∈ column, other ∈ allEntries catalog.entries)
    (present : entry ∈ column) :
    entryIn? column entry.id = some entry := by
  cases found : entryIn? column entry.id with
  | none =>
      have absent := List.find?_eq_none.1 found entry present
      simp at absent
  | some other =>
      have isOther := shown other (List.mem_of_find?_eq_some found)
      have sameId : other.id = entry.id := by simpa using List.find?_some found
      have byOther := find?_of_mem distinct isOther
      rw [sameId, find?_of_mem distinct (shown entry present)] at byOther
      exact byOther.symm

/-- A path is continued by an entry of the column below it if this is a category. -/
theorem resolvePath?_concat
    {catalog : Catalog}
    {categories : List MenuEntry}
    {path : List NodeId}
    {entry : MenuEntry}
    (distinct : catalog.IsDistinct)
    (resolved : catalog.resolvePath? path = some categories)
    (isEntry : entry ∈ columnBelow catalog.entries categories) :
    catalog.resolvePath? (path ++ [entry.id]) =
      if entry.isCategory then some (categories ++ [entry]) else none := by
  have byId : entryIn? (columnBelow catalog.entries categories) entry.id = some entry := by
    apply entryIn?_of_mem distinct _ isEntry
    intro other
    exact mem_allEntries_of_mem_columnBelow resolved
  rw [resolvePath?, resolveFrom?_concat resolved, resolveFrom?, byId]
  cases isCategory : entry.isCategory <;> simp [isCategory, resolveFrom?]

/-! ## Walking along labels -/

/-- The entry that labels name from a column down. -/
def entryAlong?
    (column : List MenuEntry) : List String -> Option MenuEntry
  | [] => none
  | label :: rest => (entryLabelled? column label).bind (descend? · rest)

theorem findByLabels?_eq
    (catalog : Catalog)
    (labels : List String) :
    catalog.findByLabels? labels = entryAlong? catalog.entries labels := by
  cases labels <;> rfl

@[simp] theorem entryAlong?_nil (column : List MenuEntry) : entryAlong? column [] = none := rfl

theorem entryAlong?_one
    (column : List MenuEntry)
    (label : String) :
    entryAlong? column [label] = entryLabelled? column label := by
  rw [entryAlong?]
  cases entryLabelled? column label <;> rfl

theorem entryAlong?_cons
    (column : List MenuEntry)
    (label next : String)
    (rest : List String) :
    entryAlong? column (label :: next :: rest) =
      (entryLabelled? column label).bind (entryAlong? ·.children (next :: rest)) := rfl

/-- Nothing is below an entry without children. -/
theorem entryAlong?_of_childless
    {column : List MenuEntry}
    (empty : column = [])
    (labels : List String) :
    entryAlong? column labels = none := by
  subst empty
  cases labels <;> rfl

end Catalog

/-! ## The standard catalogs -/

namespace Catalogs.IsStandard

variable {catalogs : Catalogs} {type : NodeType} {catalog : Catalog}

/-- A standard catalog is one of those that are written down. -/
theorem written_cases
    (standard : catalogs.IsStandard)
    (shown : catalogs.forType? type = some catalog) :
    (∃ source, catalog = (Catalog.claims.run source).1) ∨
      (∃ source, catalog = (Catalog.observations.run source).1) ∨
        ∃ source, catalog = (Catalog.inequalities.run source).1 := by
  cases type with
  | claim =>
      obtain rfl := Option.some.inj shown
      exact Or.inl standard.claims
  | observation =>
      obtain rfl := Option.some.inj shown
      exact Or.inr (Or.inl standard.observations)
  | inequality =>
      obtain rfl := Option.some.inj shown
      exact Or.inr (Or.inr standard.inequalities)
  | value => simp [forType?] at shown

/-- The terminal entries are those without entries below them. -/
theorem isSome_template_eq
    (standard : catalogs.IsStandard)
    (shown : catalogs.forType? type = some catalog)
    {entry : MenuEntry}
    (present : entry ∈ allEntries catalog.entries) :
    entry.template.isSome = entry.children.isEmpty := by
  have shaped :
      ((allEntries catalog.entries).all fun entry =>
        entry.template.isSome == entry.children.isEmpty) = true := by
    rcases standard.written_cases shown with ⟨_, rfl⟩ | ⟨_, rfl⟩ | ⟨_, rfl⟩ <;> rfl
  simpa using List.all_eq_true.1 shaped entry present

/-- Nothing is below a terminal entry. -/
theorem children_eq_nil
    (standard : catalogs.IsStandard)
    (shown : catalogs.forType? type = some catalog)
    {entry : MenuEntry}
    (present : entry ∈ allEntries catalog.entries)
    (isTerminal : entry.isCategory = false) :
    entry.children = [] := by
  have shape := standard.isSome_template_eq shown present
  rw [MenuEntry.isCategory, Option.isNone_eq_false_iff] at isTerminal
  rw [isTerminal] at shape
  exact List.isEmpty_iff.1 shape.symm

/-- The top level has categories only, or terminal entries only. -/
theorem flat_or_nested
    (standard : catalogs.IsStandard)
    (shown : catalogs.forType? type = some catalog) :
    (∀ entry ∈ catalog.entries, entry.isCategory = true) ∨
      ∀ entry ∈ catalog.entries, entry.isCategory = false := by
  have shaped :
      (catalog.entries.all MenuEntry.isCategory ||
        catalog.entries.all fun entry => !entry.isCategory) = true := by
    rcases standard.written_cases shown with ⟨_, rfl⟩ | ⟨_, rfl⟩ | ⟨_, rfl⟩ <;> rfl
  simpa using shaped

end Catalogs.IsStandard
end ContingentClaims
