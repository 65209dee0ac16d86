import ContingentClaims.Proofs.Ids.Resumption
import ContingentClaims.Proofs.Session.Draws

/-!
# The supply of names

A session on a tree draws from a sequence that was resumed behind the identifiers of this
tree. As long as no subtree from outside brings an identifier with the stem of the
sequence, the names that are still to come are new to the tree, whatever is done in
between; so no choice from a menu is ever lost.
-/

namespace ContingentClaims

namespace SequentialIds

/-- Whether an identifier begins with a stem. -/
def HasStem
    (stem : String)
    (id : NodeId) : Prop :=
  ∃ rest, id = stem ++ rest

theorem hasStem_source
    (ids : SequentialIds)
    (position : Nat) :
    HasStem ids.stem (ids.source.nameAt position) :=
  ⟨_, rfl⟩

end SequentialIds

/-- An operation brings no identifier with a stem into the tree: below the root of a
subtree that replaces a node there is none. The root takes over the identifier of the
node. -/
def Operation.Avoids
    (stem : String) : Operation -> Prop
  | replace _ subtree => ∀ id ∈ subtree.idsBelow, ¬ SequentialIds.HasStem stem id
  | _ => True

/-- The first entry of the numbered menu of claims. -/
theorem Catalogs.find?_numbered_zero :
    numbered.claims.find? "m0" =
      some { id := "m0", label := "Zero", template := some Template.zero } := by
  have named : (IdSource.numbered "m").nameAt 0 = "m0" := by decide +kernel
  have present :
      { id := (IdSource.numbered "m").nameAt 0, label := "Zero", template := some Template.zero } ∈
        allEntries numbered.claims.entries := .tail _ (.head _)
  rw [← named]
  exact Catalog.find?_of_mem (isStandard_numbered.distinct .claim _ rfl) present

namespace Tree

/-- An identifier behind an edit comes with the subtree or was there before. -/
theorem mem_ids_of_splice?
    {root subtree changed : Tree}
    {target id : NodeId}
    (spliced : root.splice? target subtree = some changed)
    (present : id ∈ changed.ids) :
    id ∈ subtree.idsBelow ∨ id ∈ root.ids := by
  obtain ⟨context, node, keepText, rfl, _, _, _, _, _, rfl⟩ := exists_place_of_splice? spliced
  exact Context.mem_ids_of_plug_takeOver present

end Tree

namespace Session

/-! ## The invariant -/

/-- A session with the standard menus on a valid tree with distinct identifiers, whose
source names nodes with a stem, and differently until its draws reach a limit. The names
to come are new to the tree. -/
structure IsSupplied
    (stem : String)
    (limit : Nat)
    (session : Session) : Prop where
  standard : session.catalogs.IsStandard
  coherent : session.IsCoherent
  valid : session.root.Grammatical
  distinct : session.root.ids.Nodup
  /-- Every name begins with the stem. -/
  stemmed : ∀ position, SequentialIds.HasStem stem (session.ids.nameAt position)
  /-- Names do not repeat below the limit. -/
  names : session.ids.IsDistinctBelow limit
  /-- The names from the next one up to the limit are not in the tree. -/
  unused :
    ∀ position, session.ids.drawn ≤ position -> position < limit ->
      session.ids.nameAt position ∉ session.root.ids

variable {stem : String} {limit : Nat} {session : Session}

/-- Before the limit, the next names are new to the tree. -/
theorem IsSupplied.isFreshFor
    (supplied : session.IsSupplied stem limit)
    {amount : Nat}
    (room : session.ids.drawn + amount ≤ limit) :
    session.ids.IsFreshFor amount session.root := by
  constructor
  · rw [← IdSource.names_eq_upcoming]
    exact IdSource.nodup_names supplied.names room
  · intro id upcoming
    rw [← IdSource.names_eq_upcoming] at upcoming
    obtain ⟨position, low, high, rfl⟩ := (IdSource.mem_names_iff _ _ _).1 upcoming
    exact supplied.unused position low (by omega)

/-! ## Steps -/

/-- Menus and the lock do not matter to the supply. -/
theorem IsSupplied.of_sameContent
    {later : Session}
    (supplied : session.IsSupplied stem limit)
    (same : session.SameContent later)
    (coherent : later.IsCoherent) :
    later.IsSupplied stem limit where
  standard := same.catalogs ▸ supplied.standard
  coherent := coherent
  valid := same.root ▸ supplied.valid
  distinct := same.root ▸ supplied.distinct
  stemmed := same.ids ▸ supplied.stemmed
  names := same.ids ▸ supplied.names
  unused := by
    rw [same.ids, same.root]
    exact supplied.unused

/-- Names may be drawn for nothing. -/
theorem IsSupplied.skip
    (supplied : session.IsSupplied stem limit)
    (amount : Nat) :
    IsSupplied stem limit { session with ids := session.ids.skip amount } where
  standard := supplied.standard
  coherent := supplied.coherent.withIds _
  valid := supplied.valid
  distinct := supplied.distinct
  stemmed := supplied.stemmed
  names := supplied.names
  unused := by
    intro position low
    exact supplied.unused position (Nat.le_of_add_right_le low)

/-- A subtree without any of the names to come may be put in anywhere. -/
theorem IsSupplied.replace
    (supplied : session.IsSupplied stem limit)
    (id : NodeId)
    {subtree : Tree}
    (unused : ∀ position, session.ids.drawn ≤ position -> position < limit ->
      session.ids.nameAt position ∉ subtree.idsBelow) :
    (session.replace id subtree).1.IsSupplied stem limit := by
  rcases session.replace_cases id subtree with refused | ⟨root, spliced, took⟩
  · rw [refused]
    exact supplied
  · rw [took]
    refine ⟨supplied.standard, isCoherent_of_closed rfl rfl, supplied.valid.splice spliced,
      Tree.nodup_ids_edit supplied.distinct (.splice spliced), supplied.stemmed,
      supplied.names, ?_⟩
    intro position low high present
    rcases Tree.mem_ids_of_splice? spliced present with isBelow | isOld
    · exact unused position low high isBelow
    · exact supplied.unused position low high isOld

/-- A subtree that is numbered with the next names leaves those behind them unused. -/
theorem IsSupplied.replace_numbered
    (supplied : session.IsSupplied stem limit)
    (id : NodeId)
    {subtree : Tree}
    {amount : Nat}
    (numbered : subtree.ids = IdSource.names amount session.ids) :
    (({ session with ids := session.ids.skip amount } : Session).replace id subtree
      ).1.IsSupplied stem limit := by
  apply (supplied.skip amount).replace
  intro position low high isBelow
  have isDrawn : session.ids.nameAt position ∈ IdSource.names amount session.ids :=
    numbered ▸ Tree.mem_ids_of_mem_idsBelow isBelow
  obtain ⟨earlier, _, before, same⟩ := (IdSource.mem_names_iff _ _ _).1 isDrawn
  rw [IdSource.drawn_skip] at low
  have equal := supplied.names earlier (by omega) position high same
  omega

theorem IsSupplied.select
    (supplied : session.IsSupplied stem limit)
    (entry : NodeId) :
    (session.select entry).1.IsSupplied stem limit := by
  by_cases offered : ∃ node template, session.Offers entry node template
  · obtain ⟨node, template, offers⟩ := offered
    rw [offers.select_eq_replace]
    obtain ⟨catalog, choice, _, _, shown, chosen, terminal⟩ := offers
    have skeleton := supplied.standard.isSkeleton shown chosen terminal
    rw [skeleton.drawn, IdSource.after_eq_skip]
    exact supplied.replace_numbered node.id (skeleton.ids_eq session.ids)
  · rw [select_eq_of_not_offers offered]
    exact supplied

theorem IsSupplied.setLabel
    (supplied : session.IsSupplied stem limit)
    (id : NodeId)
    (label : String) :
    (session.setLabel id label).1.IsSupplied stem limit := by
  rcases session.setLabel_cases id label with refused | ⟨root, _, relabelled, took⟩
  · rw [refused]
    exact supplied
  · have sameIds : root.ids = session.root.ids := Tree.ids_relabel relabelled
    rw [took]
    refine ⟨supplied.standard, supplied.coherent.relabel relabelled,
      supplied.valid.relabel relabelled,
      Tree.nodup_ids_edit supplied.distinct (.relabel relabelled), supplied.stemmed,
      supplied.names, ?_⟩
    intro position low high
    rw [sameIds]
    exact supplied.unused position low high

theorem IsSupplied.setLeaf
    (supplied : session.IsSupplied stem limit)
    (id : NodeId)
    (kind : LeafKind)
    (literal : String) :
    (session.setLeaf id kind literal).1.IsSupplied stem limit := by
  rcases session.setLeaf_cases id kind literal with
    ⟨answer, _, refused⟩ | ⟨target, leaf, _, _, _, _, rfl, typed⟩
  · rw [refused]
    exact supplied
  · rw [typed]
    exact supplied.replace_numbered id (Leaf.ids_encode leaf session.ids)

/-- Every operation that brings no identifier with the stem keeps the supply. -/
theorem IsSupplied.perform
    {operation : Operation}
    (supplied : session.IsSupplied stem limit)
    (avoids : operation.Avoids stem) :
    (session.perform operation).1.IsSupplied stem limit := by
  have coherent := supplied.coherent.perform operation
  cases operation with
  | openMenu id => exact supplied.of_sameContent (session.sameContent_openMenu id) coherent
  | closeMenu => exact supplied.of_sameContent session.sameContent_closeMenu coherent
  | click id => exact supplied.of_sameContent (session.sameContent_click id) coherent
  | setLocked locked =>
      exact supplied.of_sameContent (session.sameContent_setLocked locked) coherent
  | hover depth entry => exact supplied.of_sameContent (session.sameContent_expand _) coherent
  | expand path => exact supplied.of_sameContent (session.sameContent_expand path) coherent
  | select entry => exact supplied.select entry
  | replace id subtree =>
      apply supplied.replace
      intro position low high isBelow
      exact avoids _ isBelow (supplied.stemmed position)
  | setLabel id label => exact supplied.setLabel id label
  | setLeaf id kind literal =>
      rw [perform_setLeaf]
      exact supplied.setLeaf id kind literal

/-! ## Runs -/

theorem IsSupplied.performAll
    {operations : List Operation}
    (supplied : session.IsSupplied stem limit)
    (avoid : ∀ operation ∈ operations, operation.Avoids stem) :
    (session.performAll operations).IsSupplied stem limit := by
  induction operations generalizing session with
  | nil => exact supplied
  | cons operation rest restHypothesis =>
      obtain ⟨avoids, restAvoid⟩ := List.forall_mem_cons.1 avoid
      exact restHypothesis (supplied.perform avoids) restAvoid

/-- A session that draws from a sequence resumed behind the identifiers of its tree has a
supply until the counter runs out. -/
theorem isSupplied_counting
    {root : Tree}
    {catalogs : Catalogs}
    {ids : SequentialIds}
    (standard : catalogs.IsStandard)
    (valid : root.Grammatical)
    (distinct : root.ids.Nodup)
    (resumed : ({ stem } : SequentialIds).resumeAfter? root.ids = some ids)
    (room : ids.next.toNat + limit < UInt64.size) :
    (counting ids root catalogs).IsSupplied stem limit := by
  have sameStem : ids.stem = stem := (SequentialIds.resumesAfter resumed).1
  refine ⟨standard, isCoherent_of_closed rfl rfl, valid, distinct, ?_,
    ids.isDistinctBelow_source limit, ?_⟩
  · intro position
    exact sameStem ▸ ids.hasStem_source position
  · intro position low high present
    refine SequentialIds.not_mem_of_upcoming resumed (Nat.le_of_lt room) ?_ present
    rw [SequentialIds.mem_upcoming_source_iff]
    exact ⟨position, high, rfl⟩

/-- Names are drawn for the tree of a choice that is offered. -/
theorem Offers.drawn_select
    {entry : NodeId}
    {node : Tree}
    {template : Template}
    (offers : session.Offers entry node template)
    (standard : session.catalogs.IsStandard) :
    (session.select entry).1.ids.drawn =
      session.ids.drawn + (template.run session.ids).1.preorder.length := by
  rw [offers.select_eq_replace]
  obtain ⟨catalog, choice, _, _, shown, chosen, offered⟩ := offers
  have skeleton := standard.isSkeleton shown chosen offered
  rw [skeleton.drawn, IdSource.after_eq_skip, Session.replace]
  split <;> rfl

/-- No choice from a menu is ever lost: in a session that draws from a sequence resumed
behind the identifiers of its tree, a choice takes effect exactly if the open menu offers
it, as long as the counter does not overflow and no subtree from outside brings an
identifier with the stem of the sequence. -/
theorem choosesAsShown_performAll
    {stem : String}
    {root : Tree}
    {ids : SequentialIds}
    {menuIds : IdSource}
    {catalogs : Catalogs}
    {operations : List Operation}
    {entry : NodeId}
    (valid : root.validate = .ok ())
    (distinct : root.ids.Nodup)
    (resumed : ({ stem } : SequentialIds).resumeAfter? root.ids = some ids)
    (built : (Catalogs.standard.run menuIds).1 = .ok catalogs)
    (avoid : ∀ operation ∈ operations, operation.Avoids stem)
    (room :
      ids.next.toNat +
          (((counting ids root catalogs).performAll operations).select entry).1.ids.drawn <
        UInt64.size) :
    ((counting ids root catalogs).performAll operations).ChoosesAsShown entry := by
  have standard := Catalogs.isStandard_of_standard built
  have startValid : root.Grammatical := (Tree.validate_eq_ok_iff root).1 valid
  have supplied := (isSupplied_counting standard startValid distinct resumed room).performAll avoid
  apply supplied.coherent.choosesAsShown supplied.standard supplied.valid supplied.distinct
  intro node template offers
  apply supplied.isFreshFor
  rw [offers.drawn_select supplied.standard]

/-- A choice with two open alternatives, the second one of which is put in from outside
before the menu of the first one is opened. -/
theorem choosesAsShown_performAll_alternative :
    let root : Tree :=
      .claim "n0" .or
        [(Tree.placeholder "n1" .claim).withText "Exercise",
          (Tree.placeholder "n2" .claim).withText "Expire"]
    let operations : List Operation :=
      [.replace "n2" (.claim "x" .give [.placeholder "hole" .claim]), .openMenu "n1"]
    let ids : SequentialIds := { stem := "n", next := 3 }
    let session : Session := (counting ids root Catalogs.numbered).performAll operations
    root.validate = .ok () ∧ root.ids.Nodup ∧
      ({ stem := "n" } : SequentialIds).resumeAfter? root.ids = some ids ∧
      (Catalogs.standard.run (.numbered "m")).1 = .ok Catalogs.numbered ∧
      (∀ operation ∈ operations, operation.Avoids "n") ∧
      ids.next.toNat + (session.select "m0").1.ids.drawn < UInt64.size ∧
      session.ChoosesAsShown "m0" := by
  intro root operations ids session
  have valid : root.validate = .ok () := by
    rw [Tree.validate_eq_ok_iff]
    decide
  have distinct : root.ids.Nodup := by
    rw [Tree.ids_eq_map]
    decide
  have resumed : ({ stem := "n" } : SequentialIds).resumeAfter? root.ids = some ids := by
    rw [Tree.ids_eq_map]
    decide +kernel
  have avoid : ∀ operation ∈ operations, operation.Avoids "n" := by
    have below : (Tree.claim "x" .give [.placeholder "hole" .claim]).idsBelow = ["hole"] := by
      decide +kernel
    have apart : ¬ SequentialIds.HasStem "n" "hole" := by
      rintro ⟨rest, same⟩
      have chars := congrArg String.toList same
      simp at chars
    simp [operations, Operation.Avoids, below, apart]
  have sameCatalogs : session.catalogs = Catalogs.numbered :=
    (catalogs_perform _ _).trans (catalogs_perform _ _)
  have offers : session.Offers "m0" ((Tree.placeholder "n1" .claim).withText "Exercise")
      Template.zero := by
    refine ⟨Catalogs.numbered.claims, _, ?_, ?_, ?_, Catalogs.find?_numbered_zero, rfl⟩
    · with_unfolding_all rfl
    · with_unfolding_all rfl
    · rw [sameCatalogs]
      rfl
  have room : ids.next.toNat + (session.select "m0").1.ids.drawn < UInt64.size := by
    have drawn : session.ids.drawn = 0 := by
      with_unfolding_all rfl
    have counted : (Template.zero.run session.ids).1.preorder.length = 1 := rfl
    have standard : session.catalogs.IsStandard := by
      rw [sameCatalogs]
      exact Catalogs.isStandard_numbered
    rw [offers.drawn_select standard, drawn, counted]
    decide
  exact ⟨valid, distinct, resumed, Catalogs.standard_numbered, avoid, room,
    choosesAsShown_performAll valid distinct resumed Catalogs.standard_numbered avoid room⟩

/-- The alternative keeps its label where the tree of the constructor has no text, so it
does not get the shape of this tree. -/
theorem choice_keeps_label :
    let root : Tree :=
      .claim "n0" .or
        [(Tree.placeholder "n1" .claim).withText "Exercise",
          (Tree.placeholder "n2" .claim).withText "Expire"]
    let ids : SequentialIds := { stem := "n", next := 3 }
    let session : Session := (counting ids root Catalogs.numbered).performAll [.openMenu "n1"]
    root.validate = .ok () ∧ root.ids.Nodup ∧
      ({ stem := "n" } : SequentialIds).resumeAfter? root.ids = some ids ∧
      session.Offers "m0" ((Tree.placeholder "n1" .claim).withText "Exercise") Template.zero ∧
      (session.select "m0").2 = true ∧
      (session.select "m0").1.root.find? "n1" =
        some ((Tree.claim "n1" .zero []).withText "Exercise") ∧
      ((Tree.claim "n1" .zero []).withText "Exercise").sameShape
        (Template.zero.run session.ids).1 = false := by
  intro root ids session
  have valid : root.validate = .ok () := by
    rw [Tree.validate_eq_ok_iff]
    decide
  have distinct : root.ids.Nodup := by
    rw [Tree.ids_eq_map]
    decide
  have resumed : ({ stem := "n" } : SequentialIds).resumeAfter? root.ids = some ids := by
    rw [Tree.ids_eq_map]
    decide +kernel
  have offers : session.Offers "m0" ((Tree.placeholder "n1" .claim).withText "Exercise")
      Template.zero := by
    refine ⟨Catalogs.numbered.claims, _, ?_, ?_, ?_, Catalogs.find?_numbered_zero, rfl⟩
    · with_unfolding_all rfl
    · with_unfolding_all rfl
    · exact congrArg (Catalogs.forType? · .claim) (catalogs_perform _ _)
  have selected : session.select "m0" = _ := offers.select_eq_replace
  refine ⟨valid, distinct, resumed, offers, ?_, ?_, ?_⟩
  · rw [selected]
    with_unfolding_all rfl
  · rw [selected]
    with_unfolding_all rfl
  · with_unfolding_all rfl

end Session
end ContingentClaims
