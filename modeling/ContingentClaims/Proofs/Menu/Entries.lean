import ContingentClaims.Menu.Standard
import Mathlib.Data.List.Perm.Basic

/-!
# Entries of a catalog

All entries of a forest in pre-order. An entry is looked up in this list, and the
self-check visits its members, although in another order: a catalog that passes has
entries with distinct identifiers, and a catalog passes if it keeps the rules.
-/

namespace ContingentClaims

/-! ## The entries in pre-order -/

mutual

/-- An entry and all entries below it. -/
def MenuEntry.preorder : MenuEntry -> List MenuEntry
  | ⟨id, label, children, template⟩ => ⟨id, label, children, template⟩ :: allEntries children
termination_by structural entry => entry

/-- All entries of a forest. -/
def allEntries : List MenuEntry -> List MenuEntry
  | [] => []
  | entry :: rest => entry.preorder ++ allEntries rest
termination_by structural entries => entries

end

theorem MenuEntry.preorder_eq (entry : MenuEntry) :
    entry.preorder = entry :: allEntries entry.children := by
  cases entry
  rfl

@[simp] theorem allEntries_nil : allEntries [] = [] := rfl

@[simp] theorem allEntries_cons
    (entry : MenuEntry)
    (rest : List MenuEntry) :
    allEntries (entry :: rest) = entry :: allEntries entry.children ++ allEntries rest := by
  rw [← MenuEntry.preorder_eq]
  rfl

theorem allEntries_append (front back : List MenuEntry) :
    allEntries (front ++ back) = allEntries front ++ allEntries back := by
  induction front with
  | nil => rfl
  | cons entry rest restHypothesis => simp [restHypothesis]

/-- The order of a column does not matter to the entries in it. -/
theorem allEntries_reverse_perm (entries : List MenuEntry) :
    (allEntries entries.reverse).Perm (allEntries entries) := by
  induction entries with
  | nil => rfl
  | cons entry rest restHypothesis =>
      rw [List.reverse_cons, allEntries_append]
      refine List.perm_append_comm.trans ?_
      simpa using restHypothesis.append_left (allEntries entry.children)

/-! ## Look-up -/

mutual

private theorem MenuEntry.find?_eq
    (target : NodeId)
    (entry : MenuEntry) :
    entry.find? target = entry.preorder.find? fun entry => entry.id = target := by
  rcases entry with ⟨id, label, children, template⟩
  rw [MenuEntry.find?, MenuEntry.preorder, List.find?_cons]
  by_cases same : id = target
  · simp [same]
  · simp [same, findEntry?_eq target children]
termination_by structural entry

/-- An entry is looked up in pre-order. -/
theorem findEntry?_eq
    (target : NodeId)
    (entries : List MenuEntry) :
    findEntry? target entries =
      (allEntries entries).find? fun entry => entry.id = target := by
  cases entries with
  | nil => rfl
  | cons entry rest =>
      rw [ findEntry?, allEntries, List.find?_append, MenuEntry.find?_eq target entry,
        findEntry?_eq target rest]
      cases entry.preorder.find? fun entry => decide (entry.id = target) <;> rfl
termination_by structural entries

end

namespace Catalog

/-- What is looked up is an entry of the catalog. -/
theorem mem_of_find?
    {catalog : Catalog}
    {target : NodeId}
    {entry : MenuEntry}
    (found : catalog.find? target = some entry) :
    entry ∈ allEntries catalog.entries := by
  rw [find?, findEntry?_eq] at found
  exact List.mem_of_find?_eq_some found

/-- The identifiers of a catalog's entries are distinct. -/
def IsDistinct (catalog : Catalog) : Prop :=
  ((allEntries catalog.entries).map (·.id)).Nodup

/-- Every entry is found under its identifier, if identifiers are distinct. -/
theorem find?_of_mem
    {catalog : Catalog}
    {entry : MenuEntry}
    (distinct : catalog.IsDistinct)
    (present : entry ∈ allEntries catalog.entries) :
    catalog.find? entry.id = some entry := by
  rw [find?, findEntry?_eq]
  rw [IsDistinct] at distinct
  generalize allEntries catalog.entries = entries at distinct present ⊢
  induction entries with
  | nil => simp at present
  | cons first rest restHypothesis =>
      rw [List.map_cons, List.nodup_cons] at distinct
      rcases List.mem_cons.1 present with rfl | behind
      · simp
      · have different : first.id ≠ entry.id := by
          intro same
          exact distinct.1 (same ▸ List.mem_map_of_mem behind)
        rw [List.find?_cons_of_neg (by simpa using different)]
        exact restHypothesis distinct.2 behind

/-! ## The self-check -/

end Catalog

/-- Identifiers that are distinct and not among those seen before. -/
def Unseen (seen ids : List NodeId) : Prop :=
  ids.Nodup ∧ ∀ id ∈ ids, id ∉ seen

/-- What comes behind an identifier must avoid this one too. -/
theorem unseen_cons_iff
    {seen rest : List NodeId}
    {id : NodeId} :
    Unseen seen (id :: rest) ↔ id ∉ seen ∧ Unseen (id :: seen) rest := by
  rw [Unseen, Unseen, List.nodup_cons, List.forall_mem_cons]
  simp only [List.mem_cons, not_or]
  constructor
  · rintro ⟨⟨notRepeated, distinct⟩, unseen, apart⟩
    refine ⟨unseen, distinct, fun other present => ⟨?_, apart other present⟩⟩
    rintro rfl
    exact notRepeated present
  · rintro ⟨unseen, distinct, apart⟩
    exact ⟨⟨fun here => (apart id here).1 rfl, distinct⟩, unseen,
      fun other present => (apart other present).2⟩

theorem unseen_perm
    {seen left right : List NodeId}
    (perm : left.Perm right) :
    Unseen seen left ↔ Unseen seen right := by
  simp only [Unseen, perm.nodup_iff, perm.mem_iff]

theorem firstRepeated?_eq_none_iff (seen ids : List NodeId) :
    firstRepeated? seen ids = none ↔ ids.Nodup ∧ ∀ id ∈ ids, id ∉ seen := by
  induction ids generalizing seen with
  | nil => simp [firstRepeated?]
  | cons id rest restHypothesis =>
      change _ ↔ Unseen seen (id :: rest)
      rw [firstRepeated?, unseen_cons_iff]
      split
      next present => simp [present]
      next absent => simp [restHypothesis, absent, Unseen]

namespace Catalog

/-- The identifiers that the check still has to see when a category is opened. -/
theorem ids_pushChildren_perm
    (entry : MenuEntry)
    (rest : List MenuEntry) :
    ((allEntries (entry :: rest)).map (·.id)).Perm
      (entry.id :: (allEntries (entry.pushChildren rest)).map (·.id)) := by
  rw [allEntries_cons, List.cons_append, List.map_cons, List.perm_cons]
  refine List.Perm.map _ ?_
  rw [MenuEntry.pushChildren, allEntries_append]
  exact (allEntries_reverse_perm entry.children).symm.append_right (allEntries rest)

theorem run_checkStack_of_seen
    {type : NodeType}
    {seen : List NodeId}
    {entry : MenuEntry}
    (present : entry.id ∈ seen)
    (rest : List MenuEntry)
    (source : IdSource) :
    (checkStack type seen (entry :: rest)).run source =
      (.error (.duplicateEntry entry.id), source) := by
  rw [checkStack, if_pos present]
  rfl

/-- A category that is not empty is opened. -/
theorem run_checkStack_category
    {type : NodeType}
    {seen : List NodeId}
    {entry : MenuEntry}
    (unseen : entry.id ∉ seen)
    (category : entry.template = none)
    (filled : entry.children.isEmpty = false)
    (rest : List MenuEntry)
    (source : IdSource) :
    (checkStack type seen (entry :: rest)).run source =
      (checkStack type (entry.id :: seen) (entry.pushChildren rest)).run source := by
  rw [checkStack, if_neg unseen, category]
  simp [filled]

/-- The template of a terminal choice is run, and what it yields is checked. -/
theorem run_checkStack_terminal
    {type : NodeType}
    {seen : List NodeId}
    {entry : MenuEntry}
    {template : Template}
    (unseen : entry.id ∉ seen)
    (terminal : entry.template = some template)
    (childless : entry.children.isEmpty = true)
    (rest : List MenuEntry)
    (source : IdSource) :
    (checkStack type seen (entry :: rest)).run source =
      match yieldError? type entry.label (template.run source).1 with
      | some error => (.error error, (template.run source).2)
      | none => (checkStack type (entry.id :: seen) rest).run (template.run source).2 := by
  rw [checkStack, if_neg unseen, terminal]
  simp only [childless, if_true, StateT.run_bind]
  change (match yieldError? type entry.label (template.run source).1 with
    | some error => (pure (Except.error error) : Fresh (Except CatalogError Unit))
    | none => checkStack type (entry.id :: seen) rest).run (template.run source).2 = _
  split <;> rfl

/-- A source is reached from another one by running templates of some entries. -/
inductive Reaches
    (entries : List MenuEntry)
    (source : IdSource) : IdSource -> Prop
  | start : Reaches entries source source
  | run
      {before : IdSource}
      {entry : MenuEntry}
      {template : Template}
      (reached : Reaches entries source before)
      (present : entry ∈ entries)
      (offered : entry.template = some template) :
      Reaches entries source (template.run before).2

theorem Reaches.trans
    {entries others : List MenuEntry}
    {source middle behind : IdSource}
    (first : Reaches entries source middle)
    (subset : ∀ entry ∈ others, entry ∈ entries)
    (second : Reaches others middle behind) :
    Reaches entries source behind := by
  induction second with
  | start => exact first
  | run reached present offered reachedHypothesis =>
      exact .run reachedHypothesis (subset _ present) offered

/-- Why a check of entries fails, given the identifiers seen before, and the source that it
leaves. -/
inductive Fails
    (type : NodeType)
    (seen : List NodeId)
    (entries : List MenuEntry)
    (source : IdSource) : CatalogError -> IdSource -> Prop
  /-- Identifiers of entries are repeated. -/
  | repeated
      {id : NodeId}
      {behind : IdSource}
      (reached : Reaches entries source behind)
      (clash : ¬ Unseen seen (entries.map (·.id))) :
      Fails type seen entries source (.duplicateEntry id) behind
  /-- A category is empty. -/
  | empty
      {entry : MenuEntry}
      {behind : IdSource}
      (present : entry ∈ entries)
      (category : entry.template = none)
      (childless : entry.children = []) :
      Fails type seen entries source (.emptyCategory entry.label) behind
  /-- An entry with a template has entries below it. -/
  | ambiguous
      {entry : MenuEntry}
      {template : Template}
      {behind : IdSource}
      (present : entry ∈ entries)
      (offered : entry.template = some template)
      (filled : entry.children ≠ []) :
      Fails type seen entries source (.ambiguousEntry entry.label) behind
  /-- What a template yields does not pass. -/
  | refused
      {entry : MenuEntry}
      {template : Template}
      {before : IdSource}
      {error : CatalogError}
      (reached : Reaches entries source before)
      (present : entry ∈ entries)
      (offered : entry.template = some template)
      (yields : yieldError? type entry.label (template.run before).1 = some error) :
      Fails type seen entries source error (template.run before).2

/-- The cause of a failure among some entries is one among more entries. -/
theorem Fails.widen
    {type : NodeType}
    {seen seenBefore : List NodeId}
    {entries others : List MenuEntry}
    {source middle behind : IdSource}
    {error : CatalogError}
    (reaches : Reaches entries source middle)
    (subset : ∀ entry ∈ others, entry ∈ entries)
    (unseen : Unseen seenBefore (entries.map (·.id)) -> Unseen seen (others.map (·.id)))
    (fails : Fails type seen others middle error behind) :
    Fails type seenBefore entries source error behind := by
  cases fails with
  | repeated reached clash =>
      exact .repeated (reaches.trans subset reached) fun apart => clash (unseen apart)
  | empty present category childless => exact .empty (subset _ present) category childless
  | ambiguous present offered filled => exact .ambiguous (subset _ present) offered filled
  | refused reached present offered yields =>
      exact .refused (reaches.trans subset reached) (subset _ present) offered yields

/-- How a check of entries ends: it passes, or there is a cause for its failure among the
entries. -/
structure Ends
    (type : NodeType)
    (seen : List NodeId)
    (entries : List MenuEntry)
    (source : IdSource)
    (outcome : Except CatalogError Unit × IdSource) : Prop where
  passed :
    outcome.1 = .ok () ->
      Unseen seen (entries.map (·.id)) ∧ Reaches entries source outcome.2
  failed : ∀ error, outcome.1 = .error error -> Fails type seen entries source error outcome.2

theorem ends_of_fails
    {type : NodeType}
    {seen : List NodeId}
    {entries : List MenuEntry}
    {source behind : IdSource}
    {error : CatalogError}
    (fails : Fails type seen entries source error behind) :
    Ends type seen entries source (.error error, behind) := by
  refine ⟨nofun, fun other same => ?_⟩
  obtain rfl := Except.error.inj same
  exact fails

/-- What is found among the remaining entries is found among all. -/
theorem Ends.widen
    {type : NodeType}
    {seen : List NodeId}
    {entry : MenuEntry}
    {entries others : List MenuEntry}
    {source middle : IdSource}
    {outcome : Except CatalogError Unit × IdSource}
    (unseen : entry.id ∉ seen)
    (perm : (entries.map (·.id)).Perm (entry.id :: others.map (·.id)))
    (subset : ∀ other ∈ others, other ∈ entries)
    (reaches : Reaches entries source middle)
    (ends : Ends type (entry.id :: seen) others middle outcome) :
    Ends type seen entries source outcome := by
  constructor
  · intro accepted
    obtain ⟨apart, reached⟩ := ends.passed accepted
    rw [unseen_perm perm, unseen_cons_iff]
    exact ⟨⟨unseen, apart⟩, reaches.trans subset reached⟩
  · intro error refused
    refine (ends.failed error refused).widen reaches subset fun apart => ?_
    rw [unseen_perm perm, unseen_cons_iff] at apart
    exact apart.2

/-- What the check of a stack can come to. -/
theorem ends_checkStack
    (type : NodeType)
    (seen : List NodeId)
    (stack : List MenuEntry)
    (source : IdSource) :
    Ends type seen (allEntries stack) source ((checkStack type seen stack).run source) := by
  induction seen, stack using checkStack.induct generalizing source with
  | case1 seen =>
      rw [checkStack]
      exact ⟨fun _ => ⟨⟨List.nodup_nil, List.forall_mem_nil _⟩, .start⟩, nofun⟩
  | case2 seen entry rest isSeen =>
      rw [run_checkStack_of_seen isSeen]
      refine ends_of_fails (.repeated .start fun apart => ?_)
      exact apart.2 entry.id (by simp) isSeen
  | case3 seen entry rest unseen category empty =>
      rw [checkStack, if_neg unseen, category]
      simp only [empty, if_true]
      exact ends_of_fails (.empty (by simp) category (List.isEmpty_iff.1 empty))
  | case4 seen entry rest unseen category filled stackHypothesis =>
      rw [run_checkStack_category unseen category (by simpa using filled)]
      refine (stackHypothesis source).widen unseen (ids_pushChildren_perm entry rest) ?_ .start
      intro other present
      rw [MenuEntry.pushChildren, allEntries_append, List.mem_append,
        (allEntries_reverse_perm entry.children).mem_iff] at present
      simpa using Or.inr present
  | case5 seen entry rest unseen template terminal childless restHypothesis =>
      rw [run_checkStack_terminal unseen terminal childless]
      have here : entry ∈ allEntries (entry :: rest) := by simp
      have leaf : entry.children = [] := by simpa using childless
      split
      next error refused => exact ends_of_fails (.refused .start here terminal refused)
      next passed =>
        refine (restHypothesis (template.run source).2).widen unseen ?_ ?_
          (.run .start here terminal)
        · simp [leaf]
        · intro other present
          simp [present]
  | case6 seen entry rest unseen template terminal filled =>
      rw [checkStack, if_neg unseen, terminal]
      simp only [filled, Bool.false_eq_true, if_false]
      exact ends_of_fails (.ambiguous (by simp) terminal (by simpa using filled))

/-- A check that succeeds has seen every identifier once. -/
theorem distinct_of_checkStack
    {type : NodeType}
    {seen : List NodeId}
    {stack : List MenuEntry}
    {source : IdSource}
    (accepted : ((checkStack type seen stack).run source).1 = .ok ()) :
    ((allEntries stack).map (·.id)).Nodup ∧
      ∀ id ∈ (allEntries stack).map (·.id), id ∉ seen :=
  ((ends_checkStack type seen stack source).passed accepted).1

/-- What the self-check asks of an entry, given the names that a source hands out. -/
def KeepsRules
    (type : NodeType)
    (nameAt : Nat -> NodeId)
    (entry : MenuEntry) : Prop :=
  match entry.template with
  | none => entry.children ≠ []
  | some template =>
      entry.children = [] ∧
        ∀ source : IdSource, source.nameAt = nameAt ->
          yieldError? type entry.label (template.run source).1 = none ∧
            (template.run source).2.nameAt = nameAt

/-- Templates that keep the names of a source leave a source with the same names. -/
theorem Reaches.nameAt_eq
    {type : NodeType}
    {entries : List MenuEntry}
    {source behind : IdSource}
    (rules : ∀ entry ∈ entries, KeepsRules type source.nameAt entry)
    (reached : Reaches entries source behind) :
    behind.nameAt = source.nameAt := by
  induction reached with
  | start => rfl
  | run reached present offered sameNames =>
      have kept := rules _ present
      rw [KeepsRules, offered] at kept
      exact (kept.2 _ sameNames).2

/-- Entries that keep the rules under distinct identifiers pass the check. -/
theorem checkStack_eq_ok
    {type : NodeType}
    {seen : List NodeId}
    {stack : List MenuEntry}
    {source : IdSource}
    (distinct : ((allEntries stack).map (·.id)).Nodup)
    (apart : ∀ id ∈ (allEntries stack).map (·.id), id ∉ seen)
    (rules : ∀ entry ∈ allEntries stack, KeepsRules type source.nameAt entry) :
    ((checkStack type seen stack).run source).1 = .ok () ∧
      ((checkStack type seen stack).run source).2.nameAt = source.nameAt := by
  have ends := ends_checkStack type seen stack source
  cases checked : ((checkStack type seen stack).run source).1 with
  | ok passed => exact ⟨rfl, (ends.passed checked).2.nameAt_eq rules⟩
  | error error =>
      have fails := ends.failed error checked
      generalize ((checkStack type seen stack).run source).2 = behind at fails
      exfalso
      cases fails with
      | repeated reached clash => exact clash ⟨distinct, apart⟩
      | empty present category childless =>
          have kept := rules _ present
          rw [KeepsRules, category] at kept
          exact kept childless
      | ambiguous present offered filled =>
          have kept := rules _ present
          rw [KeepsRules, offered] at kept
          exact filled kept.1
      | refused reached present offered yields =>
          have kept := rules _ present
          rw [KeepsRules, offered] at kept
          rw [(kept.2 _ (reached.nameAt_eq rules)).1] at yields
          cases yields

theorem isDistinct_of_selfCheck
    {catalog : Catalog}
    {source : IdSource}
    (accepted : (catalog.selfCheck.run source).1 = .ok ()) :
    catalog.IsDistinct := by
  have perm := (allEntries_reverse_perm catalog.entries).map (·.id)
  exact perm.nodup_iff.1 (distinct_of_checkStack accepted).1

theorem selfCheck_eq_ok
    {catalog : Catalog}
    {source : IdSource}
    (distinct : catalog.IsDistinct)
    (rules : ∀ entry ∈ allEntries catalog.entries,
      KeepsRules catalog.type source.nameAt entry) :
    (catalog.selfCheck.run source).1 = .ok () ∧
      (catalog.selfCheck.run source).2.nameAt = source.nameAt := by
  have perm := allEntries_reverse_perm catalog.entries
  refine checkStack_eq_ok ((perm.map _).nodup_iff.2 distinct) (by simp) ?_
  intro entry present
  exact rules entry (perm.mem_iff.1 present)

end Catalog
end ContingentClaims
