import ContingentClaims.Proofs.Grammar.Exchange
import ContingentClaims.Proofs.Ids.Draws
import ContingentClaims.Proofs.Menu.Class
import ContingentClaims.Proofs.Menu.Entries
import Mathlib.Data.List.Nodup

/-!
# What the menus offer

Every template of the standard catalogs yields a valid piece of tree of the type of
its catalog, without leaves, and with identifiers that are drawn in pre-order. The
identifiers are not known when a template is written down, but nothing else about a
template depends on them, so these facts hold by computation.
-/

namespace ContingentClaims

/-! ## Skeletons -/

namespace Template

/-- A template that yields a piece of tree of a type, whatever names it draws. -/
structure IsSkeleton
    (type : NodeType)
    (template : Template) : Prop where
  /-- The root has the type. -/
  typed : ∀ source, (template.run source).1.type = type
  /-- Every node passes the grammar, has a tag of the menus, and carries no leaf. -/
  passes :
    ∀ source,
      ((template.run source).1.preorder.all fun node =>
        node.defect?.isNone && (node.hasMenuTag && node.value.isNone)) = true
  /-- The identifiers are drawn in pre-order. -/
  numbered :
    ∀ source,
      (template.run source).1.preorder.map (·.id) =
        IdSource.names (template.run source).1.preorder.length source
  /-- Nothing else is drawn. -/
  drawn :
    ∀ source,
      (template.run source).2 = IdSource.after (template.run source).1.preorder.length source

variable {type : NodeType} {template : Template}

theorem IsSkeleton.node_passes
    (skeleton : template.IsSkeleton type)
    {source : IdSource}
    {node : Tree}
    (present : node ∈ (template.run source).1.preorder) :
    node.defect? = none ∧ node.hasMenuTag = true ∧ node.value = none := by
  have passes := List.all_eq_true.1 (skeleton.passes source) node present
  simpa only [Bool.and_eq_true, Option.isNone_iff_eq_none] using passes

theorem IsSkeleton.grammatical
    (skeleton : template.IsSkeleton type)
    (source : IdSource) :
    (template.run source).1.Grammatical :=
  fun _ present => (skeleton.node_passes present).1

theorem IsSkeleton.isMenuMade
    (skeleton : template.IsSkeleton type)
    (source : IdSource) :
    (template.run source).1.IsMenuMade := by
  intro node present
  obtain ⟨_, tagged, bare⟩ := skeleton.node_passes present
  exact ⟨tagged, by simp [bare]⟩

theorem IsSkeleton.ids_eq
    (skeleton : template.IsSkeleton type)
    (source : IdSource) :
    (template.run source).1.ids =
      IdSource.names (template.run source).1.preorder.length source := by
  rw [Tree.ids_eq_map, skeleton.numbered]

theorem IsSkeleton.run_eq_skip
    (skeleton : template.IsSkeleton type)
    (source : IdSource) :
    (template.run source).2 = source.skip (template.run source).1.count := by
  rw [skeleton.drawn, IdSource.after_eq_skip, Tree.count, Tree.walk_eq_preorder]

theorem IsSkeleton.keepsNames (skeleton : template.IsSkeleton type) :
    template.KeepsNames := by
  intro source
  rw [skeleton.run_eq_skip, IdSource.nameAt_skip]

end Template

/-! ## The templates of the standard catalogs -/

namespace Catalog

/-- The templates of a catalog in pre-order of their entries. -/
def templates (catalog : Catalog) : List Template :=
  (allEntries catalog.entries).filterMap (·.template)

theorem mem_templates_iff
    (catalog : Catalog)
    (template : Template) :
    template ∈ catalog.templates ↔
      ∃ entry ∈ allEntries catalog.entries, entry.template = some template := by
  rw [templates, List.mem_filterMap]

/-- The constructors of claims. -/
def primitives : List Template :=
  [Template.zero, Template.one, Template.give, Template.and, Template.or, Template.cond,
    Template.scale, Template.whenHolds, Template.untilHolds, Template.anytime]

/-- The fragments of contracts. -/
def fragments : List Template :=
  [Template.european, Template.american, Template.perpetual, Template.autoCall,
    Template.autoPut, Template.elected, Template.physical, Template.cashCall,
    Template.cashPut, Template.cashGeneric]

/-- The whole payoffs. -/
def payoffs : List Template :=
  [Template.autoCallCash, Template.autoPutCash, Template.electedPhysical]

/-- The constructors of observations, and the difference. -/
def formulas : List Template :=
  [Template.const, Template.observe, Template.add, Template.sub, Template.neg,
    Template.mul, Template.div]

/-- The constructors of inequalities. -/
def conditions : List Template :=
  [Template.timeGte, Template.lte]

theorem isSkeleton_of_mem_primitives :
    ∀ template ∈ primitives, template.IsSkeleton .claim := by
  simp only [primitives, List.forall_mem_cons]
  refine ⟨?_, ?_, ?_, ?_, ?_, ?_, ?_, ?_, ?_, ?_, List.forall_mem_nil _⟩
  all_goals exact ⟨fun _ => rfl, fun _ => rfl, fun _ => rfl, fun _ => rfl⟩

theorem isSkeleton_of_mem_fragments :
    ∀ template ∈ fragments, template.IsSkeleton .claim := by
  simp only [fragments, List.forall_mem_cons]
  refine ⟨?_, ?_, ?_, ?_, ?_, ?_, ?_, ?_, ?_, ?_, List.forall_mem_nil _⟩
  all_goals exact ⟨fun _ => rfl, fun _ => rfl, fun _ => rfl, fun _ => rfl⟩

theorem isSkeleton_of_mem_payoffs :
    ∀ template ∈ payoffs, template.IsSkeleton .claim := by
  simp only [payoffs, List.forall_mem_cons]
  refine ⟨?_, ?_, ?_, List.forall_mem_nil _⟩
  all_goals exact ⟨fun _ => rfl, fun _ => rfl, fun _ => rfl, fun _ => rfl⟩

theorem isSkeleton_of_mem_formulas :
    ∀ template ∈ formulas, template.IsSkeleton .observation := by
  simp only [formulas, List.forall_mem_cons]
  refine ⟨?_, ?_, ?_, ?_, ?_, ?_, ?_, List.forall_mem_nil _⟩
  all_goals exact ⟨fun _ => rfl, fun _ => rfl, fun _ => rfl, fun _ => rfl⟩

theorem isSkeleton_of_mem_conditions :
    ∀ template ∈ conditions, template.IsSkeleton .inequality := by
  simp only [conditions, List.forall_mem_cons]
  refine ⟨?_, ?_, List.forall_mem_nil _⟩
  all_goals exact ⟨fun _ => rfl, fun _ => rfl, fun _ => rfl, fun _ => rfl⟩

/-- The templates that are written down for nodes of a type. -/
def written : NodeType -> List Template
  | .claim => primitives ++ fragments ++ payoffs
  | .observation => formulas
  | .inequality => conditions
  | .value => []

theorem templates_claims (source : IdSource) :
    (claims.run source).1.templates = written .claim := rfl

theorem templates_observations (source : IdSource) :
    (observations.run source).1.templates = written .observation := rfl

theorem templates_inequalities (source : IdSource) :
    (inequalities.run source).1.templates = written .inequality := rfl

/-- Everything that is written down for a type is a skeleton of this type. -/
theorem isSkeleton_of_mem_written
    {type : NodeType}
    {template : Template}
    (present : template ∈ written type) :
    template.IsSkeleton type := by
  cases type with
  | claim =>
      rw [written, List.mem_append, List.mem_append] at present
      rcases present with (isPrimitive | isFragment) | isPayoff
      · exact isSkeleton_of_mem_primitives template isPrimitive
      · exact isSkeleton_of_mem_fragments template isFragment
      · exact isSkeleton_of_mem_payoffs template isPayoff
  | observation => exact isSkeleton_of_mem_formulas template present
  | inequality => exact isSkeleton_of_mem_conditions template present
  | value => cases present

end Catalog

/-! ## The standard catalogs -/

namespace Catalogs

/-- The catalogs as they are written down, under some names, and with distinct
identifiers. -/
structure IsStandard (catalogs : Catalogs) : Prop where
  claims : ∃ source, catalogs.claims = (Catalog.claims.run source).1
  observations : ∃ source, catalogs.observations = (Catalog.observations.run source).1
  inequalities : ∃ source, catalogs.inequalities = (Catalog.inequalities.run source).1
  distinct :
    ∀ type catalog, catalogs.forType? type = some catalog -> catalog.IsDistinct

theorem selfCheckAll_cons_of_ok
    {catalog : Catalog}
    {rest : List Catalog}
    {source : IdSource}
    (accepted : (catalog.selfCheck.run source).1 = .ok ()) :
    (selfCheckAll (catalog :: rest)).run source =
      (selfCheckAll rest).run (catalog.selfCheck.run source).2 := by
  rcases checked : catalog.selfCheck.run source with ⟨result, behind⟩
  rw [checked] at accepted
  obtain rfl : result = .ok () := accepted
  rw [selfCheckAll, StateT.run_bind, checked]
  rfl

theorem selfCheckAll_cons_of_error
    {catalog : Catalog}
    {rest : List Catalog}
    {source : IdSource}
    {error : CatalogError}
    (refused : (catalog.selfCheck.run source).1 = .error error) :
    (selfCheckAll (catalog :: rest)).run source =
      (.error error, (catalog.selfCheck.run source).2) := by
  rcases checked : catalog.selfCheck.run source with ⟨result, behind⟩
  rw [checked] at refused
  obtain rfl : result = .error error := refused
  rw [selfCheckAll, StateT.run_bind, checked]
  rfl

/-- Every catalog has passed if all have. -/
theorem exists_selfCheck_of_selfCheckAll
    {catalogs : List Catalog}
    {source : IdSource}
    (accepted : ((selfCheckAll catalogs).run source).1 = .ok ()) :
    ∀ catalog ∈ catalogs, ∃ before, (catalog.selfCheck.run before).1 = .ok () := by
  induction catalogs generalizing source with
  | nil => simp
  | cons catalog rest restHypothesis =>
      cases checked : (catalog.selfCheck.run source).1 with
      | error error =>
          rw [selfCheckAll_cons_of_error checked] at accepted
          cases accepted
      | ok passed =>
          rw [selfCheckAll_cons_of_ok checked] at accepted
          exact List.forall_mem_cons.2 ⟨⟨source, checked⟩, restHypothesis accepted⟩

/-- The catalogs as they are written down, before they are checked. -/
def unchecked : Fresh Catalogs := do
  let claims <- Catalog.claims
  let observations <- Catalog.observations
  let inequalities <- Catalog.inequalities
  return { claims, observations, inequalities }

/-- The catalogs in the order in which they are checked. -/
def toList (catalogs : Catalogs) : List Catalog :=
  [catalogs.claims, catalogs.observations, catalogs.inequalities]

/-- What is built is what is written down, unless the check fails. -/
theorem standard_eq :
    standard = (do
      let catalogs <- unchecked
      let checked <- selfCheckAll catalogs.toList
      return checked.map fun _ => catalogs) := by
  simp only [standard, unchecked, bind_assoc, pure_bind]
  congr
  funext claims
  congr
  funext observations
  congr
  funext inequalities
  apply bind_congr
  intro checked
  cases checked <;> rfl

theorem standard_eq_ok_iff
    (source : IdSource)
    (catalogs : Catalogs) :
    (standard.run source).1 = .ok catalogs ↔
      ((selfCheckAll (unchecked.run source).1.toList).run (unchecked.run source).2).1 = .ok () ∧
        (unchecked.run source).1 = catalogs := by
  have result : (standard.run source).1 =
      (((selfCheckAll (unchecked.run source).1.toList).run (unchecked.run source).2).1).map
        fun _ => (unchecked.run source).1 := by
    rw [standard_eq]
    rfl
  rw [result]
  cases ((selfCheckAll (unchecked.run source).1.toList).run (unchecked.run source).2).1 with
  | error error => simp [Except.map]
  | ok passed => simp [Except.map]

/-- What is built is the standard catalogs. -/
theorem isStandard_of_standard
    {source : IdSource}
    {catalogs : Catalogs}
    (built : (standard.run source).1 = .ok catalogs) :
    catalogs.IsStandard := by
  obtain ⟨accepted, rfl⟩ := (standard_eq_ok_iff source catalogs).1 built
  have passes := exists_selfCheck_of_selfCheckAll accepted
  refine ⟨⟨_, rfl⟩, ⟨_, rfl⟩, ⟨_, rfl⟩, fun type catalog shown => ?_⟩
  have listed : catalog ∈ (unchecked.run source).1.toList := by
    generalize (unchecked.run source).1 = catalogs at shown ⊢
    cases type <;> simp_all [forType?, toList]
  obtain ⟨before, ok⟩ := passes catalog listed
  exact Catalog.isDistinct_of_selfCheck ok

variable {catalogs : Catalogs} {type : NodeType} {catalog : Catalog}

/-- Whatever a menu offers is written down for the type of its nodes. -/
theorem IsStandard.mem_written
    (standard : catalogs.IsStandard)
    (shown : catalogs.forType? type = some catalog)
    {entry : NodeId}
    {choice : MenuEntry}
    {template : Template}
    (found : catalog.find? entry = some choice)
    (offered : choice.template = some template) :
    template ∈ Catalog.written type := by
  have present : template ∈ catalog.templates := by
    rw [Catalog.mem_templates_iff]
    exact ⟨choice, Catalog.mem_of_find? found, offered⟩
  cases type with
  | claim =>
      obtain ⟨source, built⟩ := standard.claims
      obtain rfl := Option.some.inj shown
      rwa [built, Catalog.templates_claims] at present
  | observation =>
      obtain ⟨source, built⟩ := standard.observations
      obtain rfl := Option.some.inj shown
      rwa [built, Catalog.templates_observations] at present
  | inequality =>
      obtain ⟨source, built⟩ := standard.inequalities
      obtain rfl := Option.some.inj shown
      rwa [built, Catalog.templates_inequalities] at present
  | value => simp [forType?] at shown

/-- Whatever a menu offers is a skeleton of the type of its nodes. -/
theorem IsStandard.isSkeleton
    (standard : catalogs.IsStandard)
    (shown : catalogs.forType? type = some catalog)
    {entry : NodeId}
    {choice : MenuEntry}
    {template : Template}
    (found : catalog.find? entry = some choice)
    (offered : choice.template = some template) :
    template.IsSkeleton type :=
  Catalog.isSkeleton_of_mem_written (standard.mem_written shown found offered)

theorem IsStandard.primitives_subset (standard : catalogs.IsStandard) :
    Catalog.primitives ⊆ catalogs.claims.templates := by
  obtain ⟨source, written⟩ := standard.claims
  rw [written, Catalog.templates_claims, Catalog.written, List.append_assoc]
  exact List.subset_append_left _ _

theorem IsStandard.formulas_subset (standard : catalogs.IsStandard) :
    Catalog.formulas ⊆ catalogs.observations.templates := by
  obtain ⟨source, written⟩ := standard.observations
  rw [written, Catalog.templates_observations]
  exact List.Subset.refl _

theorem IsStandard.conditions_subset (standard : catalogs.IsStandard) :
    Catalog.conditions ⊆ catalogs.inequalities.templates := by
  obtain ⟨source, written⟩ := standard.inequalities
  rw [written, Catalog.templates_inequalities]
  exact List.Subset.refl _

/-- Every template of a catalog is offered under some identifier. -/
theorem IsStandard.exists_entry
    (standard : catalogs.IsStandard)
    (shown : catalogs.forType? type = some catalog)
    {template : Template}
    (present : template ∈ catalog.templates) :
    ∃ choice : MenuEntry,
      catalog.find? choice.id = some choice ∧ choice.template = some template := by
  obtain ⟨choice, listed, offered⟩ := (Catalog.mem_templates_iff catalog template).1 present
  have distinct := standard.distinct type catalog shown
  exact ⟨choice, Catalog.find?_of_mem distinct listed, offered⟩

end Catalogs

/-! ## Building succeeds -/

namespace Catalog

/-- All that the check of a catalog can find fault with in the tree of a skeleton is a name
that is repeated. -/
theorem yieldError?_eq_of_isSkeleton
    {type : NodeType}
    {template : Template}
    (skeleton : template.IsSkeleton type)
    (source : IdSource)
    (label : String) :
    yieldError? type label (template.run source).1 =
      (firstRepeated? [] (template.run source).1.ids).map (.duplicateNodeId label) := by
  have valid := (Tree.validate_eq_ok_iff _).2 (skeleton.grammatical source)
  simp only [yieldError?, skeleton.typed, ne_eq, not_true_eq_false, if_false, valid]

/-- The tree of a skeleton passes the check of a catalog if no name is repeated. -/
theorem yieldError?_of_isSkeleton
    {type : NodeType}
    {template : Template}
    {source : IdSource}
    (skeleton : template.IsSkeleton type)
    (injective : Function.Injective source.nameAt)
    (label : String) :
    yieldError? type label (template.run source).1 = none := by
  have distinct : (template.run source).1.ids.Nodup := by
    rw [skeleton.ids_eq, IdSource.names_eq_upcoming]
    exact source.nodup_upcoming injective _
  have noRepetition : firstRepeated? [] (template.run source).1.ids = none :=
    (firstRepeated?_eq_none_iff [] _).2 ⟨distinct, by simp⟩
  rw [yieldError?_eq_of_isSkeleton skeleton, noRepetition, Option.map_none]

/-- A catalog passes the self-check under some names, wherever the draws are. -/
def Passes
    (catalog : Catalog)
    (nameAt : Nat -> NodeId) : Prop :=
  ∀ source : IdSource, source.nameAt = nameAt ->
    (catalog.selfCheck.run source).1 = .ok () ∧
      (catalog.selfCheck.run source).2.nameAt = nameAt

/-- A catalog of skeletons under distinct names passes the self-check. -/
theorem passes_of_isSkeleton
    {catalog : Catalog}
    {nameAt : Nat -> NodeId}
    (injective : Function.Injective nameAt)
    (distinct : catalog.IsDistinct)
    (shaped : ((allEntries catalog.entries).all fun entry =>
      entry.template.isSome == entry.children.isEmpty) = true)
    (skeletons : ∀ template ∈ catalog.templates, template.IsSkeleton catalog.type) :
    catalog.Passes nameAt := by
  rintro source rfl
  refine selfCheck_eq_ok distinct fun entry present => ?_
  have shape := List.all_eq_true.1 shaped entry present
  unfold KeepsRules
  split
  next category =>
    intro empty
    simp [category, empty] at shape
  next template offered =>
    have skeleton := skeletons template
      ((mem_templates_iff catalog template).2 ⟨entry, present, offered⟩)
    refine ⟨by simpa [offered] using shape, fun other sameNames => ⟨?_, ?_⟩⟩
    · exact yieldError?_of_isSkeleton skeleton (sameNames ▸ injective) entry.label
    · rw [skeleton.keepsNames, sameNames]

/-! ### Names of the entries -/

theorem run_terminal
    (label : String)
    (template : Template)
    (source : IdSource) :
    (MenuEntry.terminal label template).run source =
      ({ id := source.peek, label, template := some template }, source.skip 1) := rfl

theorem run_category
    (label : String)
    (children : List MenuEntry)
    (source : IdSource) :
    (MenuEntry.category label children).run source =
      ({ id := source.peek, label, children }, source.skip 1) := rfl

theorem run_claims_eq_skip (source : IdSource) :
    (claims.run source).2 = source.skip 30 := by
  simp only [claims, Fresh.run_bind, Fresh.run_pure, run_terminal, run_category,
    IdSource.skip_skip]

theorem run_observations_eq_skip (source : IdSource) :
    (observations.run source).2 = source.skip 7 := by
  simp only [observations, Fresh.run_bind, Fresh.run_pure, run_terminal, IdSource.skip_skip]

theorem run_inequalities_eq_skip (source : IdSource) :
    (inequalities.run source).2 = source.skip 2 := by
  simp only [inequalities, Fresh.run_bind, Fresh.run_pure, run_terminal, IdSource.skip_skip]

/-- The draws of the entries of a catalog, in pre-order of the entries. -/
private theorem nodup_draws
    {source : IdSource}
    {amount : Nat}
    {positions : List Nat}
    (issued : (source.upcoming amount).Nodup)
    (within : ∀ position ∈ positions, position < amount)
    (distinct : positions.Nodup) :
    (positions.map fun offset => source.nameAt (source.drawn + offset)).Nodup := by
  have separate := List.inj_on_of_nodup_map issued
  refine distinct.map_on fun left isLeft right isRight same => ?_
  exact separate (List.mem_range.2 (within left isLeft))
    (List.mem_range.2 (within right isRight)) same

theorem isDistinct_claims
    {source : IdSource}
    (issued : (source.upcoming 30).Nodup) :
    (claims.run source).1.IsDistinct := by
  have positions : [27, 0, 1, 2, 3, 4, 5, 6, 7, 8, 9, 28, 21, 10, 11, 12, 22, 13, 14, 15, 23,
    19, 20, 16, 17, 18, 29, 24, 25, 26].Nodup := by decide
  exact nodup_draws issued (by decide) positions

theorem isDistinct_observations
    {source : IdSource}
    (issued : (source.upcoming 7).Nodup) :
    (observations.run source).1.IsDistinct := by
  have positions : [0, 1, 2, 3, 4, 5, 6].Nodup := by decide
  exact nodup_draws issued (by decide) positions

theorem isDistinct_inequalities
    {source : IdSource}
    (issued : (source.upcoming 2).Nodup) :
    (inequalities.run source).1.IsDistinct := by
  have positions : [0, 1].Nodup := by decide
  exact nodup_draws issued (by decide) positions

theorem passes_claims
    {source : IdSource}
    (injective : Function.Injective source.nameAt) :
    (claims.run source).1.Passes source.nameAt :=
  passes_of_isSkeleton injective (isDistinct_claims (source.nodup_upcoming injective 30)) rfl
    fun _ present => isSkeleton_of_mem_written present

theorem passes_observations
    {source : IdSource}
    (injective : Function.Injective source.nameAt) :
    (observations.run source).1.Passes source.nameAt :=
  passes_of_isSkeleton injective (isDistinct_observations (source.nodup_upcoming injective 7)) rfl
    fun _ present => isSkeleton_of_mem_written present

theorem passes_inequalities
    {source : IdSource}
    (injective : Function.Injective source.nameAt) :
    (inequalities.run source).1.Passes source.nameAt :=
  passes_of_isSkeleton injective (isDistinct_inequalities (source.nodup_upcoming injective 2)) rfl
    fun _ present => isSkeleton_of_mem_written present

end Catalog

namespace Catalogs

theorem selfCheckAll_eq_ok
    {catalogs : List Catalog}
    {source : IdSource}
    (passes : ∀ catalog ∈ catalogs, catalog.Passes source.nameAt) :
    ((selfCheckAll catalogs).run source).1 = .ok () := by
  induction catalogs generalizing source with
  | nil => rfl
  | cons catalog rest restHypothesis =>
      obtain ⟨catalogPasses, restPasses⟩ := List.forall_mem_cons.1 passes
      obtain ⟨accepted, sameNames⟩ := catalogPasses source rfl
      rw [selfCheckAll_cons_of_ok accepted]
      apply restHypothesis
      rw [sameNames]
      exact restPasses

theorem run_unchecked (source : IdSource) :
    unchecked.run source =
      (⟨(Catalog.claims.run source).1, (Catalog.observations.run (source.skip 30)).1,
        (Catalog.inequalities.run (source.skip 37)).1⟩, source.skip 39) := by
  simp only [unchecked, Fresh.run_bind, Fresh.run_pure, Catalog.run_claims_eq_skip,
    Catalog.run_observations_eq_skip, Catalog.run_inequalities_eq_skip, IdSource.skip_skip]

/-- The standard catalogs are built whenever no name is repeated. -/
theorem standard_eq_ok
    {source : IdSource}
    (injective : Function.Injective source.nameAt) :
    (standard.run source).1 = .ok (unchecked.run source).1 := by
  rw [standard_eq_ok_iff]
  refine ⟨selfCheckAll_eq_ok ?_, rfl⟩
  rw [run_unchecked]
  simp only [toList, List.forall_mem_cons]
  exact ⟨Catalog.passes_claims injective, Catalog.passes_observations injective,
    Catalog.passes_inequalities injective, List.forall_mem_nil _⟩

/-- The standard catalogs with the entries `m0`, `m1`, … -/
def numbered : Catalogs :=
  (unchecked.run (.numbered "m")).1

theorem standard_numbered : (standard.run (.numbered "m")).1 = .ok numbered :=
  standard_eq_ok (IdSource.numbered_injective "m")

theorem isStandard_numbered : numbered.IsStandard :=
  isStandard_of_standard standard_numbered

end Catalogs
end ContingentClaims
