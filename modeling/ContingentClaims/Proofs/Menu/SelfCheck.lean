import ContingentClaims.Proofs.Menu.Entries
import Mathlib.Data.List.Duplicate

/-!
# Exactness of the self-check

The self-check walks over a forest with a stack. Here the walk is unrolled to the list of
the entries in the order in which they are visited, every entry of the forest once, and the
check to a scan of that list for the first entry that breaks a rule. So a catalog passes
exactly if its entries have distinct identifiers, each of them is a category that is not
empty or a terminal choice, and what every template yields in its turn has the right type,
is well-formed and does not repeat an identifier; and an error is the fault of an entry.
-/

namespace ContingentClaims

/-! ## The order of the visits -/

mutual

/-- An entry and all entries below it, the last entry of a column first. -/
def MenuEntry.visits : MenuEntry -> List MenuEntry
  | ⟨id, label, children, template⟩ => ⟨id, label, children, template⟩ :: lastToFirst children
termination_by structural entry => entry

/-- All entries of a forest, the last entry of a column first. -/
def lastToFirst : List MenuEntry -> List MenuEntry
  | [] => []
  | entry :: rest => lastToFirst rest ++ entry.visits
termination_by structural entries => entries

end

theorem MenuEntry.visits_eq (entry : MenuEntry) :
    entry.visits = entry :: lastToFirst entry.children := by
  cases entry
  rfl

/-- The entries of a column are visited as they come from a stack. -/
theorem lastToFirst_eq_flatMap (entries : List MenuEntry) :
    lastToFirst entries = entries.reverse.flatMap MenuEntry.visits := by
  induction entries with
  | nil => rfl
  | cons entry rest restHypothesis => simp [lastToFirst, restHypothesis]

/-- Opening a category visits the entries below it before the rest of the stack. -/
theorem flatMap_visits_pushChildren
    (entry : MenuEntry)
    (rest : List MenuEntry) :
    (entry.pushChildren rest).flatMap MenuEntry.visits =
      lastToFirst entry.children ++ rest.flatMap MenuEntry.visits := by
  rw [MenuEntry.pushChildren, List.flatMap_append, lastToFirst_eq_flatMap]

mutual

private theorem MenuEntry.visits_perm (entry : MenuEntry) :
    entry.visits.Perm entry.preorder := by
  rcases entry with ⟨id, label, children, template⟩
  rw [MenuEntry.visits, MenuEntry.preorder, List.perm_cons]
  exact lastToFirst_perm children
termination_by structural entry

/-- Every entry of a forest is visited once. -/
theorem lastToFirst_perm (entries : List MenuEntry) :
    (lastToFirst entries).Perm (allEntries entries) := by
  cases entries with
  | nil => rfl
  | cons entry rest =>
      rw [lastToFirst, allEntries]
      exact List.perm_append_comm.trans
        ((MenuEntry.visits_perm entry).append (lastToFirst_perm rest))
termination_by structural entries

end

/-! ## The templates in their turn -/

/-- The source that an entry leaves when it is visited. -/
def MenuEntry.sourceBehind
    (source : IdSource)
    (entry : MenuEntry) : IdSource :=
  match entry.template with
  | none => source
  | some template => (template.run source).2

/-- What the templates of entries yield, one after the other. -/
def yieldsOf
    (source : IdSource) : List MenuEntry -> List (MenuEntry × Tree)
  | [] => []
  | entry :: rest =>
      match entry.template with
      | none => yieldsOf source rest
      | some template =>
          (entry, (template.run source).1) :: yieldsOf (template.run source).2 rest

theorem yieldsOf_cons
    (source : IdSource)
    (entry : MenuEntry)
    (rest : List MenuEntry) :
    yieldsOf source (entry :: rest) =
      yieldsOf source [entry] ++ yieldsOf (entry.sourceBehind source) rest := by
  cases template : entry.template <;> simp [yieldsOf, MenuEntry.sourceBehind, template]

theorem yieldsOf_append
    (source : IdSource)
    (front back : List MenuEntry) :
    yieldsOf source (front ++ back) =
      yieldsOf source front ++ yieldsOf (front.foldl MenuEntry.sourceBehind source) back := by
  induction front generalizing source with
  | nil => rfl
  | cons entry rest restHypothesis =>
      rw [List.cons_append, yieldsOf_cons, restHypothesis, yieldsOf_cons source entry rest,
        List.append_assoc, List.foldl_cons]

/-- Every template is run, and nothing else is. -/
theorem map_fst_yieldsOf
    (source : IdSource)
    (entries : List MenuEntry) :
    (yieldsOf source entries).map Prod.fst = entries.filter (·.template.isSome) := by
  induction entries generalizing source with
  | nil => rfl
  | cons entry rest restHypothesis =>
      cases template : entry.template with
      | none => simp [yieldsOf, template, restHypothesis]
      | some template => simp [yieldsOf, template, restHypothesis]

/-! ## Repetitions -/

/-- What stands in front of itself is a duplicate. -/
theorem duplicate_of_mem
    {front back : List NodeId}
    {id : NodeId}
    (before : id ∈ front) :
    List.Duplicate id (front ++ id :: back) := by
  rw [List.duplicate_iff_sublist]
  exact (List.singleton_sublist.2 before).append (by simp)

theorem duplicate_perm
    {left right : List NodeId}
    (perm : left.Perm right)
    {id : NodeId} :
    List.Duplicate id left ↔ List.Duplicate id right := by
  rw [List.duplicate_iff_two_le_count, List.duplicate_iff_two_le_count, perm.count_eq]

/-- What is found to repeat itself stands behind itself, or was seen before. -/
theorem exists_of_firstRepeated?
    {seen ids : List NodeId}
    {id : NodeId}
    (found : firstRepeated? seen ids = some id) :
    ∃ front back, ids = front ++ id :: back ∧ (id ∈ front ∨ id ∈ seen) := by
  induction ids generalizing seen with
  | nil => cases found
  | cons first rest restHypothesis =>
      rw [firstRepeated?] at found
      split at found
      next present =>
        obtain rfl := Option.some.inj found
        exact ⟨[], rest, rfl, .inr present⟩
      next absent =>
        obtain ⟨front, back, rfl, before⟩ := restHypothesis found
        refine ⟨first :: front, back, rfl, ?_⟩
        rw [List.mem_cons] at before ⊢
        tauto

theorem duplicate_of_firstRepeated?
    {ids : List NodeId}
    {id : NodeId}
    (found : firstRepeated? [] ids = some id) :
    List.Duplicate id ids := by
  obtain ⟨front, back, rfl, before⟩ := exists_of_firstRepeated? found
  exact duplicate_of_mem (before.resolve_right List.not_mem_nil)

/-! ## The scan -/

/-- An entry is a category with entries below it, or a terminal choice without. -/
def MenuEntry.IsEitherKind (entry : MenuEntry) : Prop :=
  entry.children ≠ [] ∧ entry.template.isNone ∨ entry.children = [] ∧ entry.template.isSome

namespace Catalog

/-- The rule that an entry breaks, given the identifiers seen before and the source that its
template is run on. -/
def brokenRule?
    (type : NodeType)
    (seen : List NodeId)
    (source : IdSource)
    (entry : MenuEntry) : Option CatalogError :=
  if entry.id ∈ seen then
    some (.duplicateEntry entry.id)
  else
    match entry.template, entry.children with
    | none, [] => some (.emptyCategory entry.label)
    | none, _ :: _ => none
    | some template, [] => yieldError? type entry.label (template.run source).1
    | some _, _ :: _ => some (.ambiguousEntry entry.label)

/-- The rule that the first entry to break one breaks. -/
def firstBroken?
    (type : NodeType)
    (seen : List NodeId)
    (source : IdSource) : List MenuEntry -> Option CatalogError
  | [] => none
  | entry :: rest =>
      (brokenRule? type seen source entry).or
        (firstBroken? type (entry.id :: seen) (entry.sourceBehind source) rest)

/-- The check of a stack scans the entries in the order of their visits. -/
theorem run_checkStack_eq
    (type : NodeType)
    (seen : List NodeId)
    (stack : List MenuEntry)
    (source : IdSource) :
    ((checkStack type seen stack).run source).1 =
      match firstBroken? type seen source (stack.flatMap MenuEntry.visits) with
      | none => .ok ()
      | some error => .error error := by
  induction seen, stack using checkStack.induct generalizing source with
  | case1 seen =>
      rw [checkStack]
      rfl
  | case2 seen entry rest isSeen =>
      rw [run_checkStack_of_seen isSeen]
      simp [MenuEntry.visits_eq, firstBroken?, brokenRule?, isSeen]
  | case3 seen entry rest unseen category empty =>
      have refused : ((checkStack type seen (entry :: rest)).run source).1 =
          .error (.emptyCategory entry.label) := by
        rw [checkStack, if_neg unseen, category, empty]
        rfl
      have leaf : entry.children = [] := by simpa using empty
      simp [refused, MenuEntry.visits_eq, firstBroken?, brokenRule?, unseen, category, leaf]
  | case4 seen entry rest unseen category filled stackHypothesis =>
      rw [run_checkStack_category unseen category (by simpa using filled), stackHypothesis,
        flatMap_visits_pushChildren]
      obtain ⟨child, others, children⟩ := List.exists_cons_of_ne_nil
        (by simpa using filled : entry.children ≠ [])
      simp [MenuEntry.visits_eq, firstBroken?, brokenRule?, MenuEntry.sourceBehind, unseen,
        category, children]
  | case5 seen entry rest unseen template terminal childless restHypothesis =>
      rw [run_checkStack_terminal unseen terminal childless]
      have leaf : entry.children = [] := by simpa using childless
      simp only [List.flatMap_cons, MenuEntry.visits_eq, leaf, lastToFirst, List.cons_append,
        List.nil_append, firstBroken?, brokenRule?, if_neg unseen, terminal,
        MenuEntry.sourceBehind]
      cases yieldError? type entry.label (template.run source).1 with
      | none => exact restHypothesis _
      | some error => rfl
  | case6 seen entry rest unseen template terminal filled =>
      obtain ⟨child, others, children⟩ := List.exists_cons_of_ne_nil
        (by simpa using filled : entry.children ≠ [])
      have refused : ((checkStack type seen (entry :: rest)).run source).1 =
          .error (.ambiguousEntry entry.label) := by
        rw [checkStack, if_neg unseen, terminal, children]
        rfl
      simp [refused, MenuEntry.visits_eq, firstBroken?, brokenRule?, unseen, terminal, children]

/-- An entry breaks no rule if it is new, of either kind, and its template yields what
passes. -/
theorem brokenRule?_eq_none_iff
    (type : NodeType)
    (seen : List NodeId)
    (source : IdSource)
    (entry : MenuEntry) :
    brokenRule? type seen source entry = none ↔
      entry.id ∉ seen ∧ entry.IsEitherKind ∧
        ∀ pair ∈ yieldsOf source [entry], yieldError? type pair.1.label pair.2 = none := by
  by_cases isSeen : entry.id ∈ seen
  · simp [brokenRule?, isSeen]
  · rw [brokenRule?, if_neg isSeen, MenuEntry.IsEitherKind]
    cases template : entry.template <;> cases children : entry.children <;>
      simp [yieldsOf, isSeen, template]

/-- A scan finds nothing if identifiers are new and distinct, every entry is of either kind,
and what the templates yield in turn passes. -/
theorem firstBroken?_eq_none_iff
    (type : NodeType)
    (seen : List NodeId)
    (source : IdSource)
    (entries : List MenuEntry) :
    firstBroken? type seen source entries = none ↔
      Unseen seen (entries.map (·.id)) ∧ (∀ entry ∈ entries, entry.IsEitherKind) ∧
        ∀ pair ∈ yieldsOf source entries, yieldError? type pair.1.label pair.2 = none := by
  induction entries generalizing seen source with
  | nil => simp [firstBroken?, Unseen, yieldsOf]
  | cons entry rest restHypothesis =>
      rw [firstBroken?, Option.or_eq_none_iff, brokenRule?_eq_none_iff, restHypothesis,
        List.map_cons, unseen_cons_iff, List.forall_mem_cons,
        yieldsOf_cons source entry rest, List.forall_mem_append]
      tauto

/-- What a scan finds is broken by an entry, after the entries in front of it. -/
theorem exists_of_firstBroken?
    {type : NodeType}
    {seen : List NodeId}
    {source : IdSource}
    {entries : List MenuEntry}
    {error : CatalogError}
    (found : firstBroken? type seen source entries = some error) :
    ∃ front entry back, entries = front ++ entry :: back ∧
      brokenRule? type ((front.map (·.id)).reverse ++ seen)
        (front.foldl MenuEntry.sourceBehind source) entry = some error := by
  induction entries generalizing seen source with
  | nil => cases found
  | cons entry rest restHypothesis =>
      rw [firstBroken?, Option.or_eq_some_iff] at found
      rcases found with here | ⟨-, behind⟩
      · exact ⟨[], entry, rest, rfl, here⟩
      · obtain ⟨front, culprit, back, rfl, broken⟩ := restHypothesis behind
        exact ⟨entry :: front, culprit, back, rfl, by simpa using broken⟩

/-! ## The verdict -/

/-- What the templates of a catalog yield when the check reaches them. -/
def yields
    (catalog : Catalog)
    (source : IdSource) : List (MenuEntry × Tree) :=
  yieldsOf source (lastToFirst catalog.entries)

/-- The rules of a catalog, whose templates are run one after the other. -/
structure KeepsAllRules
    (catalog : Catalog)
    (source : IdSource) : Prop where
  distinct : catalog.IsDistinct
  kinds : ∀ entry ∈ allEntries catalog.entries, entry.IsEitherKind
  typed : ∀ pair ∈ catalog.yields source, pair.2.type = catalog.type
  valid : ∀ pair ∈ catalog.yields source, pair.2.validate = .ok ()
  distinctNodes : ∀ pair ∈ catalog.yields source, pair.2.ids.Nodup

/-- An error is the fault of an entry: the entry breaks the rule that the error states. -/
inductive Breaks
    (catalog : Catalog)
    (source : IdSource) : CatalogError -> Prop
  | duplicateEntry
      {id : NodeId}
      (repeated : List.Duplicate id ((allEntries catalog.entries).map (·.id))) :
      Breaks catalog source (.duplicateEntry id)
  | emptyCategory
      {entry : MenuEntry}
      (present : entry ∈ allEntries catalog.entries)
      (category : entry.template = none)
      (empty : entry.children = []) :
      Breaks catalog source (.emptyCategory entry.label)
  | ambiguousEntry
      {entry : MenuEntry}
      {template : Template}
      (present : entry ∈ allEntries catalog.entries)
      (offered : entry.template = some template)
      (filled : entry.children ≠ []) :
      Breaks catalog source (.ambiguousEntry entry.label)
  | wrongType
      {entry : MenuEntry}
      {tree : Tree}
      (yielded : (entry, tree) ∈ catalog.yields source)
      (different : tree.type ≠ catalog.type) :
      Breaks catalog source (.wrongType entry.label catalog.type tree.type)
  | malformed
      {entry : MenuEntry}
      {tree : Tree}
      {error : TreeError}
      (yielded : (entry, tree) ∈ catalog.yields source)
      (refused : tree.validate = .error error) :
      Breaks catalog source (.malformed entry.label error)
  | duplicateNodeId
      {entry : MenuEntry}
      {tree : Tree}
      {id : NodeId}
      (yielded : (entry, tree) ∈ catalog.yields source)
      (repeated : List.Duplicate id tree.ids) :
      Breaks catalog source (.duplicateNodeId entry.label id)

theorem yieldError?_eq_none_iff
    (type : NodeType)
    (label : String)
    (tree : Tree) :
    yieldError? type label tree = none ↔
      tree.type = type ∧ tree.validate = .ok () ∧ tree.ids.Nodup := by
  rw [yieldError?]
  by_cases sameType : tree.type = type
  · cases validated : tree.validate <;> simp [sameType, firstRepeated?_eq_none_iff]
  · simp [sameType]

/-- What is wrong with the tree that an entry yields is the fault of that entry. -/
theorem breaks_of_yieldError?
    {catalog : Catalog}
    {source : IdSource}
    {entry : MenuEntry}
    {tree : Tree}
    {error : CatalogError}
    (yielded : (entry, tree) ∈ catalog.yields source)
    (found : yieldError? catalog.type entry.label tree = some error) :
    catalog.Breaks source error := by
  rw [yieldError?] at found
  split at found
  next different =>
    obtain rfl := Option.some.inj found
    exact .wrongType yielded different
  next sameType =>
    cases validated : tree.validate with
    | error refusal =>
        rw [validated] at found
        obtain rfl := Option.some.inj found
        exact .malformed yielded validated
    | ok =>
        rw [validated] at found
        obtain ⟨id, repeated, rfl⟩ := Option.map_eq_some_iff.1 found
        exact .duplicateNodeId yielded (duplicate_of_firstRepeated? repeated)

/-- The rule that an entry breaks in its turn is broken in the catalog. -/
theorem breaks_of_brokenRule?
    {catalog : Catalog}
    {source : IdSource}
    {entry : MenuEntry}
    {front back : List MenuEntry}
    {error : CatalogError}
    (order : lastToFirst catalog.entries = front ++ entry :: back)
    (broken : brokenRule? catalog.type (front.map (·.id)).reverse
      (front.foldl MenuEntry.sourceBehind source) entry = some error) :
    catalog.Breaks source error := by
  have visited := lastToFirst_perm catalog.entries
  rw [order] at visited
  have present : entry ∈ allEntries catalog.entries := visited.mem_iff.1 (by simp)
  rw [brokenRule?] at broken
  split at broken
  next isSeen =>
    obtain rfl := Option.some.inj broken
    have repeated : List.Duplicate entry.id ((front ++ entry :: back).map (·.id)) := by
      rw [List.map_append, List.map_cons]
      exact duplicate_of_mem (by simpa using isSeen)
    exact .duplicateEntry ((duplicate_perm (visited.map _)).1 repeated)
  next unseen =>
    split at broken
    next category empty =>
      obtain rfl := Option.some.inj broken
      exact .emptyCategory present category empty
    next => cases broken
    next template offered childless =>
      refine breaks_of_yieldError? ?_ broken
      rw [yields, order, yieldsOf_append, yieldsOf_cons]
      simp [yieldsOf, offered]
    next template child others offered filled =>
      obtain rfl := Option.some.inj broken
      exact .ambiguousEntry present offered (by simp [filled])

/-- The self-check is exact. It runs every template of the catalog once, it accepts a catalog
exactly if all rules are kept, and every error that it reports is deserved. -/
theorem selfCheck_exact
    (catalog : Catalog)
    (source : IdSource) :
    ((catalog.yields source).map Prod.fst).Perm
        ((allEntries catalog.entries).filter (·.template.isSome)) ∧
      ((catalog.selfCheck.run source).1 = .ok () ↔ catalog.KeepsAllRules source) ∧
      ∀ error, (catalog.selfCheck.run source).1 = .error error -> catalog.Breaks source error := by
  have visited := lastToFirst_perm catalog.entries
  have checked : (catalog.selfCheck.run source).1 =
      match firstBroken? catalog.type [] source (lastToFirst catalog.entries) with
      | none => .ok ()
      | some error => .error error := by
    rw [selfCheck, run_checkStack_eq, lastToFirst_eq_flatMap]
  refine ⟨?_, ?_, ?_⟩
  · rw [yields, map_fst_yieldsOf]
    exact visited.filter _
  · have accepted : (catalog.selfCheck.run source).1 = .ok () ↔
        firstBroken? catalog.type [] source (lastToFirst catalog.entries) = none := by
      rw [checked]
      split <;> simp [*]
    rw [accepted, firstBroken?_eq_none_iff]
    simp only [yieldError?_eq_none_iff]
    constructor
    · rintro ⟨⟨distinct, -⟩, kinds, passed⟩
      exact ⟨(visited.map _).nodup_iff.1 distinct,
        fun entry present => kinds entry (visited.mem_iff.2 present),
        fun pair yielded => (passed pair yielded).1,
        fun pair yielded => (passed pair yielded).2.1,
        fun pair yielded => (passed pair yielded).2.2⟩
    · intro rules
      exact ⟨⟨(visited.map _).nodup_iff.2 rules.distinct, by simp⟩,
        fun entry present => rules.kinds entry (visited.mem_iff.1 present),
        fun pair yielded => ⟨rules.typed pair yielded, rules.valid pair yielded,
          rules.distinctNodes pair yielded⟩⟩
  · intro error reported
    rw [checked] at reported
    split at reported
    next => cases reported
    next found broken =>
      obtain rfl := Except.error.inj reported
      obtain ⟨front, entry, back, order, culprit⟩ := exists_of_firstBroken? broken
      exact breaks_of_brokenRule? order (by simpa using culprit)

end Catalog
end ContingentClaims
