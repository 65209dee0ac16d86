import ContingentClaims.Proofs.Menu.Navigation

/-!
# Columns along any path

A path of identifiers need not lead through a catalog: it may be stale, too long, end in a
terminal choice, or belong to another catalog. If the identifiers of the entries are
distinct, the columns are those along its longest prefix that resolves to categories, so
the columns and the resolution of a path agree, although they are looked up in different
ways.
-/

namespace ContingentClaims
namespace Catalog

/-! ## One step -/

/-- The category with an identifier in a column. -/
def categoryIn?
    (column : List MenuEntry)
    (id : NodeId) : Option MenuEntry :=
  (entryIn? column id).filter MenuEntry.isCategory

theorem categoryIn?_eq_some_iff
    (column : List MenuEntry)
    (id : NodeId)
    (category : MenuEntry) :
    categoryIn? column id = some category ↔
      entryIn? column id = some category ∧ category.isCategory = true := by
  rw [categoryIn?, Option.filter_eq_some_iff]

/-- A step resolves if it names a category of the column. -/
theorem isSome_resolveFrom?_cons_iff
    (column : List MenuEntry)
    (id : NodeId)
    (rest : List NodeId) :
    (resolveFrom? column (id :: rest)).isSome = true ↔
      ∃ category, categoryIn? column id = some category ∧
        (resolveFrom? category.children rest).isSome = true := by
  simp only [Option.isSome_iff_exists, resolveFrom?_cons_eq_some_iff, categoryIn?_eq_some_iff]
  constructor
  · rintro ⟨_, category, others, isIn, isCategory, below, _⟩
    exact ⟨category, ⟨isIn, isCategory⟩, others, below⟩
  · rintro ⟨category, ⟨isIn, isCategory⟩, others, below⟩
    exact ⟨category :: others, category, others, isIn, isCategory, below, rfl⟩

section Distinct

variable {catalog : Catalog} {column : List MenuEntry}

/-- Where identifiers are distinct, an entry of a column is looked up by its identifier. -/
theorem categoryIn?_eq_some_iff_mem
    (distinct : catalog.IsDistinct)
    (shown : ∀ entry ∈ column, entry ∈ allEntries catalog.entries)
    (id : NodeId)
    (category : MenuEntry) :
    categoryIn? column id = some category ↔
      category ∈ column ∧ category.id = id ∧ category.isCategory = true := by
  rw [categoryIn?_eq_some_iff]
  constructor
  · rintro ⟨isIn, isCategory⟩
    exact ⟨List.mem_of_find?_eq_some isIn, by simpa using List.find?_some isIn, isCategory⟩
  · rintro ⟨present, rfl, isCategory⟩
    exact ⟨entryIn?_of_mem distinct shown present, isCategory⟩

/-- The first category with an identifier is the first entry with it, if it is a category. -/
theorem find?_category_eq
    (distinct : catalog.IsDistinct)
    (shown : ∀ entry ∈ column, entry ∈ allEntries catalog.entries)
    (id : NodeId) :
    (column.find? fun entry => entry.id == id && entry.isCategory) = categoryIn? column id := by
  cases found : column.find? fun entry => entry.id == id && entry.isCategory with
  | some category =>
      have fits := List.find?_some found
      rw [Bool.and_eq_true, beq_iff_eq] at fits
      exact ((categoryIn?_eq_some_iff_mem distinct shown id category).2
        ⟨List.mem_of_find?_eq_some found, fits⟩).symm
  | none =>
      refine (Option.eq_none_iff_forall_ne_some.2 fun category isIn => ?_).symm
      obtain ⟨present, fits⟩ := (categoryIn?_eq_some_iff_mem distinct shown id category).1 isIn
      refine List.find?_eq_none.1 found category present ?_
      rwa [Bool.and_eq_true, beq_iff_eq]

/-- The columns go on below a step that names a category and end at any other one. -/
theorem columnsFrom_cons
    (distinct : catalog.IsDistinct)
    (shown : ∀ entry ∈ column, entry ∈ allEntries catalog.entries)
    (id : NodeId)
    (rest : List NodeId) :
    columnsFrom column (id :: rest) =
      match categoryIn? column id with
      | some category => column :: columnsFrom category.children rest
      | none => [column] := by
  have found := find?_category_eq distinct shown id
  cases isIn : categoryIn? column id with
  | none => simp only [columnsFrom, found, isIn]
  | some category => simp only [columnsFrom, found, isIn]

/-- One step resolves if it names a category of the column. -/
theorem isSome_resolvePath?_concat_iff
    {categories : List MenuEntry}
    {path : List NodeId}
    (distinct : catalog.IsDistinct)
    (resolved : catalog.resolvePath? path = some categories)
    (id : NodeId) :
    (catalog.resolvePath? (path ++ [id])).isSome = true ↔
      ∃ entry ∈ columnBelow catalog.entries categories,
        entry.id = id ∧ entry.isCategory = true := by
  have shown : ∀ entry ∈ columnBelow catalog.entries categories,
      entry ∈ allEntries catalog.entries := fun _ => mem_allEntries_of_mem_columnBelow resolved
  rw [resolvePath?, resolveFrom?_concat resolved, Option.isSome_map,
    isSome_resolveFrom?_cons_iff]
  simp only [categoryIn?_eq_some_iff_mem distinct shown, resolveFrom?, Option.isSome_some,
    and_true]

end Distinct

/-! ## The longest prefix that resolves -/

/-- The longest prefix of a path that resolves from a column, and its categories. -/
structure IsLongestResolved
    (column : List MenuEntry)
    (path front : List NodeId)
    (categories : List MenuEntry) : Prop where
  isPrefix : front <+: path
  resolved : resolveFrom? column front = some categories
  longest :
    ∀ other, other <+: path -> (resolveFrom? column other).isSome = true ->
      other.length ≤ front.length

theorem isLongestResolved_nil (column : List MenuEntry) : IsLongestResolved column [] [] [] :=
  ⟨List.prefix_rfl, rfl, fun _ isPrefix _ => isPrefix.length_le⟩

/-- Nothing of a path resolves if its first step names no category. -/
theorem isLongestResolved_of_categoryIn?_eq_none
    {column : List MenuEntry}
    {id : NodeId}
    (absent : categoryIn? column id = none)
    (rest : List NodeId) :
    IsLongestResolved column (id :: rest) [] [] := by
  refine ⟨List.nil_prefix, rfl, fun other isPrefix resolved => ?_⟩
  rcases List.prefix_cons_iff.1 isPrefix with rfl | ⟨others, rfl, _⟩
  · exact le_rfl
  · obtain ⟨category, isIn, _⟩ := (isSome_resolveFrom?_cons_iff _ _ _).1 resolved
    rw [absent] at isIn
    cases isIn

/-- A step that names a category leads to the longest prefix below this category. -/
theorem IsLongestResolved.cons
    {column categories : List MenuEntry}
    {category : MenuEntry}
    {id : NodeId}
    {rest front : List NodeId}
    (isIn : categoryIn? column id = some category)
    (below : IsLongestResolved category.children rest front categories) :
    IsLongestResolved column (id :: rest) (id :: front) (category :: categories) := by
  refine ⟨List.cons_prefix_cons.2 ⟨rfl, below.isPrefix⟩, ?_, fun other isPrefix resolved => ?_⟩
  · rw [resolveFrom?_cons_eq_some_iff]
    obtain ⟨isEntry, isCategory⟩ := (categoryIn?_eq_some_iff _ _ _).1 isIn
    exact ⟨category, categories, isEntry, isCategory, below.resolved, rfl⟩
  · rcases List.prefix_cons_iff.1 isPrefix with rfl | ⟨others, rfl, othersPrefix⟩
    · exact Nat.zero_le _
    · obtain ⟨named, isNamed, othersResolved⟩ := (isSome_resolveFrom?_cons_iff _ _ _).1 resolved
      rw [isIn] at isNamed
      obtain rfl := Option.some.inj isNamed
      exact Nat.succ_le_succ (below.longest others othersPrefix othersResolved)

/-- The columns of a path are those along its longest prefix that resolves. -/
theorem exists_isLongestResolved
    {catalog : Catalog}
    {column : List MenuEntry}
    (distinct : catalog.IsDistinct)
    (shown : ∀ entry ∈ column, entry ∈ allEntries catalog.entries)
    (path : List NodeId) :
    ∃ front categories, IsLongestResolved column path front categories ∧
      columnsFrom column path = column :: categories.map (·.children) := by
  induction path generalizing column with
  | nil => exact ⟨[], [], isLongestResolved_nil column, rfl⟩
  | cons id rest restHypothesis =>
      rw [columnsFrom_cons distinct shown]
      cases isIn : categoryIn? column id with
      | none => exact ⟨[], [], isLongestResolved_of_categoryIn?_eq_none isIn rest, rfl⟩
      | some category =>
          have present := ((categoryIn?_eq_some_iff_mem distinct shown id category).1 isIn).1
          obtain ⟨front, categories, below, columns⟩ := restHypothesis fun child isChild =>
            mem_allEntries_of_mem_children (shown category present)
              (mem_allEntries_of_mem isChild)
          exact ⟨id :: front, category :: categories, below.cons isIn, by simp [columns]⟩

/-! ## Agreement -/

/-- The columns of a path agree with its resolution. -/
structure ColumnsAgree
    (catalog : Catalog)
    (path : List NodeId) : Prop where
  /-- The columns are the top level and those below the categories of the longest prefix that
  resolves, one more than this prefix has steps. -/
  columns_eq :
    ∃ front categories, IsLongestResolved catalog.entries path front categories ∧
      catalog.columns path = catalog.entries :: categories.map (·.children) ∧
      (catalog.columns path).length = 1 + front.length
  /-- All of a path resolves if no column is missing. -/
  resolves_iff :
    (catalog.resolvePath? path).isSome = true ↔
      (catalog.columns path).length = path.length + 1

theorem columnsAgree
    {catalog : Catalog}
    (distinct : catalog.IsDistinct)
    (path : List NodeId) :
    catalog.ColumnsAgree path := by
  obtain ⟨front, categories, longest, columns⟩ :=
    exists_isLongestResolved distinct (fun _ => mem_allEntries_of_mem) path
  have count : (catalog.columns path).length = 1 + front.length := by
    rw [Catalog.columns, columns, List.length_cons, List.length_map,
      length_of_resolveFrom? longest.resolved, Nat.add_comm]
  refine ⟨⟨front, categories, longest, columns, count⟩, ?_⟩
  rw [count, resolvePath?]
  constructor
  · intro resolved
    have atMost := longest.isPrefix.length_le
    have atLeast := longest.longest path List.prefix_rfl resolved
    omega
  · intro complete
    have whole : front = path := longest.isPrefix.eq_of_length (by omega)
    rw [← whole, longest.resolved]
    rfl

end Catalog
end ContingentClaims
