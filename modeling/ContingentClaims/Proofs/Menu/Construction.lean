import ContingentClaims.Proofs.Menu.Skeletons

/-!
# Building the standard catalogs

What a source of identifiers hands out decides whether the standard catalogs are built, and
nothing else about them. Every constructor that is listed yields a valid piece of tree and
numbers it in pre-order (`Template.Constructs`), so the self-check can only find names that
are repeated (`Catalog.failsOnRepetition_selfCheck`): without repetitions the catalogs are
built, and apart from the names of the entries they are always the same (`buildsSoundly`).
-/

namespace ContingentClaims

/-! ## Constructors -/

namespace Template

/-- What a template makes of a source of identifiers. -/
structure Constructs
    (type : NodeType)
    (template : Template)
    (source : IdSource) : Prop where
  valid : (template.run source).1.validate = .ok ()
  typed : (template.run source).1.type = type
  /-- The root is no open slot. -/
  filled : (template.run source).1.isPlaceholder = false
  /-- The identifiers in pre-order are the next names of the source. -/
  numbered : (template.run source).1.ids = source.upcoming (template.run source).1.count
  /-- Nothing else is drawn. -/
  drawn : (template.run source).2 = source.skip (template.run source).1.count

theorem IsSkeleton.ids_eq_upcoming
    {type : NodeType}
    {template : Template}
    (skeleton : template.IsSkeleton type)
    (source : IdSource) :
    (template.run source).1.ids = source.upcoming (template.run source).1.count := by
  rw [skeleton.ids_eq, IdSource.names_eq_upcoming, Tree.count, Tree.walk_eq_preorder]

theorem IsSkeleton.constructs
    {type : NodeType}
    {template : Template}
    {source : IdSource}
    (skeleton : template.IsSkeleton type)
    (filled : (template.run source).1.isPlaceholder = false) :
    template.Constructs type source where
  valid := (Tree.validate_eq_ok_iff _).2 (skeleton.grammatical source)
  typed := skeleton.typed source
  filled := filled
  numbered := skeleton.ids_eq_upcoming source
  drawn := skeleton.run_eq_skip source

end Template

namespace Catalog

/-- No template that is written down is a mere open slot. -/
theorem isPlaceholder_of_mem_written
    {type : NodeType}
    {template : Template}
    (present : template ∈ written type)
    (source : IdSource) :
    (template.run source).1.isPlaceholder = false := by
  have filled : ((written type).all fun template =>
      !(template.run source).1.isPlaceholder) = true := by
    cases type <;> rfl
  simpa using List.all_eq_true.1 filled template present

/-- Everything that is written down for a type constructs trees of this type. -/
theorem constructs_of_mem_written
    {type : NodeType}
    {template : Template}
    (present : template ∈ written type)
    (source : IdSource) :
    template.Constructs type source :=
  (isSkeleton_of_mem_written present).constructs (isPlaceholder_of_mem_written present source)

end Catalog

/-! ## Failures -/

/-- The errors that name an identifier that is used twice. -/
inductive CatalogError.IsRepetition : CatalogError -> Prop
  | entry (id : NodeId) : IsRepetition (.duplicateEntry id)
  | node (label : String) (id : NodeId) : IsRepetition (.duplicateNodeId label id)

/-- A computation fails only on names that are repeated: if the entries are distinct, among
those that it has drawn. -/
def FailsOnRepetition
    {α : Type}
    (distinctEntries : Prop)
    (source : IdSource)
    (outcome : Except CatalogError α × IdSource) : Prop :=
  ∃ amount, outcome.2 = source.skip amount ∧
    ∀ error, outcome.1 = .error error ->
      error.IsRepetition ∧ ¬ (distinctEntries ∧ (source.upcoming amount).Nodup)

namespace Catalog

/-- Every category has entries below it, and every terminal choice a skeleton of the type of
the catalog. -/
structure OffersSkeletons (catalog : Catalog) : Prop where
  shaped :
    ((allEntries catalog.entries).all fun entry =>
      entry.template.isSome == entry.children.isEmpty) = true
  skeletons : ∀ template ∈ catalog.templates, template.IsSkeleton catalog.type

theorem Reaches.exists_skip
    {type : NodeType}
    {entries : List MenuEntry}
    {source behind : IdSource}
    (skeletons : ∀ entry ∈ entries, ∀ template, entry.template = some template ->
      template.IsSkeleton type)
    (reached : Reaches entries source behind) :
    ∃ amount, behind = source.skip amount := by
  induction reached with
  | start => exact ⟨0, rfl⟩
  | @run before entry template reached present offered reachedHypothesis =>
      obtain ⟨amount, rfl⟩ := reachedHypothesis
      refine ⟨amount + (template.run (source.skip amount)).1.count, ?_⟩
      rw [(skeletons entry present template offered).run_eq_skip, IdSource.skip_skip]

/-- Entries that are shaped as they should be and yield skeletons fail on repeated names. -/
theorem Fails.failsOnRepetition
    {type : NodeType}
    {seen : List NodeId}
    {entries : List MenuEntry}
    {source behind : IdSource}
    {error : CatalogError}
    (shaped : ∀ entry ∈ entries, entry.template.isSome = entry.children.isEmpty)
    (skeletons : ∀ entry ∈ entries, ∀ template, entry.template = some template ->
      template.IsSkeleton type)
    (fails : Fails type seen entries source error behind) :
    ∃ amount, behind = source.skip amount ∧ error.IsRepetition ∧
      ¬ (Unseen seen (entries.map (·.id)) ∧ (source.upcoming amount).Nodup) := by
  cases fails with
  | repeated reached clash =>
      obtain ⟨amount, skipped⟩ := reached.exists_skip skeletons
      exact ⟨amount, skipped, .entry _, fun ⟨unseen, _⟩ => clash unseen⟩
  | empty present category childless =>
      have shape := shaped _ present
      simp [category, childless] at shape
  | ambiguous present offered filled =>
      have shape := shaped _ present
      simp [offered, filled] at shape
  | @refused entry template before error reached present offered yields =>
      obtain ⟨amount, rfl⟩ := reached.exists_skip skeletons
      have skeleton := skeletons entry present template offered
      rw [yieldError?_eq_of_isSkeleton skeleton, Option.map_eq_some_iff] at yields
      obtain ⟨id, found, rfl⟩ := yields
      refine ⟨_, (skeleton.run_eq_skip _).trans (IdSource.skip_skip _ _ _), .node _ id, ?_⟩
      rintro ⟨_, issued⟩
      -- The names of the tree are the last ones that have been issued.
      rw [IdSource.upcoming_add, List.nodup_append, ← skeleton.ids_eq_upcoming] at issued
      have noRepetition := (firstRepeated?_eq_none_iff [] _).2 ⟨issued.2.1, by simp⟩
      rw [noRepetition] at found
      cases found

theorem failsOnRepetition_selfCheck
    {catalog : Catalog}
    (offers : catalog.OffersSkeletons)
    (source : IdSource) :
    FailsOnRepetition catalog.IsDistinct source (catalog.selfCheck.run source) := by
  have perm := allEntries_reverse_perm catalog.entries
  have shaped (entry : MenuEntry) (present : entry ∈ allEntries catalog.entries.reverse) :
      entry.template.isSome = entry.children.isEmpty := by
    simpa using List.all_eq_true.1 offers.shaped entry (perm.mem_iff.1 present)
  have skeletons (entry : MenuEntry) (present : entry ∈ allEntries catalog.entries.reverse)
      (template : Template) (offered : entry.template = some template) :
      template.IsSkeleton catalog.type :=
    offers.skeletons template
      ((mem_templates_iff catalog template).2 ⟨entry, perm.mem_iff.1 present, offered⟩)
  have ends := ends_checkStack catalog.type [] catalog.entries.reverse source
  change FailsOnRepetition _ _ ((checkStack catalog.type [] catalog.entries.reverse).run source)
  generalize (checkStack catalog.type [] catalog.entries.reverse).run source = outcome at ends ⊢
  cases checked : outcome.1 with
  | ok passed =>
      obtain ⟨amount, skipped⟩ := (ends.passed checked).2.exists_skip skeletons
      refine ⟨amount, skipped, fun error failed => ?_⟩
      rw [checked] at failed
      cases failed
  | error error =>
      obtain ⟨amount, skipped, repetition, repeated⟩ :=
        (ends.failed error checked).failsOnRepetition shaped skeletons
      refine ⟨amount, skipped, fun other failed => ?_⟩
      rw [checked, Except.error.injEq] at failed
      subst failed
      refine ⟨repetition, fun ⟨distinct, issued⟩ => repeated ⟨?_, issued⟩⟩
      exact ⟨(perm.map _).nodup_iff.2 distinct, by simp⟩

end Catalog

/-- What fails behind some draws fails on the names of all draws. -/
theorem FailsOnRepetition.widen
    {α : Type}
    {distinctEntries moreEntries : Prop}
    {source later : IdSource}
    {amount : Nat}
    {outcome : Except CatalogError α × IdSource}
    (reached : later = source.skip amount)
    (weaker : moreEntries -> (source.upcoming amount).Nodup -> distinctEntries)
    (fails : FailsOnRepetition distinctEntries later outcome) :
    FailsOnRepetition moreEntries source outcome := by
  subst reached
  obtain ⟨further, behind, blames⟩ := fails
  refine ⟨amount + further, behind.trans (IdSource.skip_skip _ _ _), fun error failed => ?_⟩
  obtain ⟨repetition, repeated⟩ := blames error failed
  refine ⟨repetition, fun ⟨distinct, issued⟩ => repeated ?_⟩
  rw [IdSource.upcoming_add, List.nodup_append] at issued
  exact ⟨weaker distinct issued.1, issued.2.1⟩

namespace Catalogs

theorem failsOnRepetition_selfCheckAll
    {catalogs : List Catalog}
    (offer : ∀ catalog ∈ catalogs, catalog.OffersSkeletons)
    (source : IdSource) :
    FailsOnRepetition (∀ catalog ∈ catalogs, catalog.IsDistinct) source
      ((selfCheckAll catalogs).run source) := by
  induction catalogs generalizing source with
  | nil => exact ⟨0, rfl, nofun⟩
  | cons catalog rest restHypothesis =>
      obtain ⟨offers, restOffer⟩ := List.forall_mem_cons.1 offer
      have fails := Catalog.failsOnRepetition_selfCheck offers source
      cases checked : (catalog.selfCheck.run source).1 with
      | error error =>
          have whole : catalog.selfCheck.run source =
              (.error error, (catalog.selfCheck.run source).2) := Prod.ext checked rfl
          rw [selfCheckAll_cons_of_error checked, ← whole]
          exact fails.widen (show source = source.skip 0 from rfl) fun distinct _ =>
            (List.forall_mem_cons.1 distinct).1
      | ok passed =>
          rw [selfCheckAll_cons_of_ok checked]
          obtain ⟨amount, behind, _⟩ := fails
          exact (restHypothesis restOffer _).widen behind fun distinct _ =>
            (List.forall_mem_cons.1 distinct).2

/-- The catalogs that are written down offer what is written down for their types. -/
theorem offersSkeletons_unchecked (source : IdSource) :
    ∀ catalog ∈ (unchecked.run source).1.toList, catalog.OffersSkeletons := by
  simp only [toList, List.forall_mem_cons]
  exact ⟨⟨rfl, fun _ present => Catalog.isSkeleton_of_mem_written present⟩,
    ⟨rfl, fun _ present => Catalog.isSkeleton_of_mem_written present⟩,
    ⟨rfl, fun _ present => Catalog.isSkeleton_of_mem_written present⟩, List.forall_mem_nil _⟩

/-- The entries get the names that are drawn for the three catalogs in turn. -/
theorem isDistinct_unchecked
    {source : IdSource}
    (issued : (source.upcoming 39).Nodup) :
    ∀ catalog ∈ (unchecked.run source).1.toList, catalog.IsDistinct := by
  rw [source.upcoming_add 30 9, (source.skip 30).upcoming_add 7 2, List.nodup_append,
    List.nodup_append] at issued
  obtain ⟨claimNames, ⟨observationNames, inequalityNames, _⟩, _⟩ := issued
  rw [run_unchecked]
  simp only [toList, List.forall_mem_cons]
  exact ⟨Catalog.isDistinct_claims claimNames, Catalog.isDistinct_observations observationNames,
    Catalog.isDistinct_inequalities inequalityNames, List.forall_mem_nil _⟩

/-- Nothing but a repeated name is in the way of the standard catalogs. -/
theorem failsOnRepetition_standard (source : IdSource) :
    FailsOnRepetition True source (standard.run source) := by
  have checks := (failsOnRepetition_selfCheckAll (offersSkeletons_unchecked source) _).widen
    (congrArg Prod.snd (run_unchecked source)) fun (_ : True) issued => isDistinct_unchecked issued
  obtain ⟨amount, behind, blames⟩ := checks
  have outcome : standard.run source =
      ((((selfCheckAll (unchecked.run source).1.toList).run (unchecked.run source).2).1).map
        fun _ => (unchecked.run source).1,
        ((selfCheckAll (unchecked.run source).1.toList).run (unchecked.run source).2).2) := by
    rw [standard_eq]
    rfl
  rw [outcome]
  refine ⟨amount, behind, fun error failed => blames error ?_⟩
  generalize ((selfCheckAll (unchecked.run source).1.toList).run (unchecked.run source).2).1 =
    checked at failed ⊢
  cases checked with
  | error other =>
      obtain rfl := Except.error.inj failed
      rfl
  | ok passed => cases failed

end Catalogs

/-! ## Catalogs without names -/

mutual

/-- An entry without its identifier and those below it. -/
def MenuEntry.unnamed : MenuEntry -> MenuEntry
  | ⟨_, label, children, template⟩ => ⟨"", label, unnamedEntries children, template⟩
termination_by structural entry => entry

/-- The entries of a forest without their identifiers. -/
def unnamedEntries : List MenuEntry -> List MenuEntry
  | [] => []
  | entry :: rest => entry.unnamed :: unnamedEntries rest
termination_by structural entries => entries

end

namespace Catalogs

/-- Labels, nesting and constructors of the catalogs. -/
def unnamed (catalogs : Catalogs) : List (NodeType × List MenuEntry) :=
  catalogs.toList.map fun catalog => (catalog.type, unnamedEntries catalog.entries)

theorem unnamed_unchecked (source other : IdSource) :
    (unchecked.run source).1.unnamed = (unchecked.run other).1.unnamed := rfl

/-- What building the standard catalogs comes to with a source of identifiers. -/
structure BuildsSoundly (source : IdSource) : Prop where
  /-- Every constructor that is listed yields valid trees of the type of its catalog. -/
  constructors :
    ∀ type catalog, (unchecked.run source).1.forType? type = some catalog ->
      catalog.type = type ∧
        ∀ entry ∈ allEntries catalog.entries, ∀ template, entry.template = some template ->
          ∀ ids, template.Constructs type ids
  /-- What is built is what is written down. -/
  returns :
    ∀ catalogs, (standard.run source).1 = .ok catalogs -> catalogs = (unchecked.run source).1
  /-- A failure names an identifier that is used twice. -/
  failures : ∀ error, (standard.run source).1 = .error error -> error.IsRepetition
  /-- If the names that are issued are distinct, the catalogs are built. -/
  succeeds :
    ∃ amount, (standard.run source).2 = source.skip amount ∧
      ((source.upcoming amount).Nodup -> ∃ catalogs, (standard.run source).1 = .ok catalogs)
  /-- With any other source the same is built under other names. -/
  alike :
    ∀ catalogs other others, (standard.run source).1 = .ok catalogs ->
      (standard.run other).1 = .ok others -> catalogs.unnamed = others.unnamed

/-- The constructors of the catalogs are sound, and the catalogs are built from any source that
does not repeat itself. -/
theorem buildsSoundly (source : IdSource) : BuildsSoundly source := by
  obtain ⟨amount, behind, blames⟩ := failsOnRepetition_standard source
  have returns (ids : IdSource) (catalogs : Catalogs)
      (built : (standard.run ids).1 = .ok catalogs) : catalogs = (unchecked.run ids).1 :=
    ((standard_eq_ok_iff ids catalogs).1 built).2.symm
  refine ⟨?_, returns source, fun error failed => (blames error failed).1, ?_, ?_⟩
  · intro type catalog shown
    have offered : catalog.type = type ∧ catalog.templates = Catalog.written type := by
      cases type <;> cases shown <;> exact ⟨rfl, rfl⟩
    refine ⟨offered.1, fun entry present template isOffered ids => ?_⟩
    apply Catalog.constructs_of_mem_written
    rw [← offered.2, Catalog.mem_templates_iff]
    exact ⟨entry, present, isOffered⟩
  · refine ⟨amount, behind, fun issued => ?_⟩
    cases built : (standard.run source).1 with
    | ok catalogs => exact ⟨catalogs, rfl⟩
    | error error => exact absurd ⟨trivial, issued⟩ (blames error built).2
  · intro catalogs other others built otherBuilt
    rw [returns source catalogs built, returns other others otherBuilt]
    exact unnamed_unchecked source other

/-- The three catalogs list thirty-two constructors. -/
example (source : IdSource) :
    ((unchecked.run source).1.toList.flatMap Catalog.templates).length = 32 := rfl

end Catalogs
end ContingentClaims
