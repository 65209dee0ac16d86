import ContingentClaims.Proofs.Session.Choosing

/-!
# Draws of operations

An operation draws at most as many names as the largest template has nodes, and most
operations draw none. Whatever is done in a session, its source is the one from the start
behind some further draws, of which there are at most as many as the operations allow
(`drawsAtMost_performAll`).
-/

namespace ContingentClaims

namespace Catalog

/-- The number of nodes of the largest template. -/
def largest : Nat := 15

theorem length_written
    (type : NodeType)
    (names : IdSource) :
    ((written type).all fun template =>
      decide ((template.run names).1.preorder.length ≤ largest)) = true := by
  cases type <;> rfl

end Catalog

/-- The number of names that an operation draws at most. -/
def Operation.mostDraws : Operation -> Nat
  | .select _ => Catalog.largest
  | .setLeaf _ _ _ => 1
  | _ => 0

/-- The number of names that operations draw at most. -/
def mostDraws (operations : List Operation) : Nat :=
  (operations.map Operation.mostDraws).sum

theorem mostDraws_append (front back : List Operation) :
    mostDraws (front ++ back) = mostDraws front + mostDraws back := by
  simp [mostDraws]

namespace Session

open IdSource (DrawsAtMost)

variable {session : Session}

theorem ids_replace
    (session : Session)
    (id : NodeId)
    (subtree : Tree) :
    (session.replace id subtree).1.ids = session.ids := by
  rcases session.replace_cases id subtree with refused | ⟨root, _, took⟩
  · rw [refused]
  · rw [took]

theorem ids_setLabel
    (session : Session)
    (id : NodeId)
    (label : String) :
    (session.setLabel id label).1.ids = session.ids := by
  rcases session.setLabel_cases id label with refused | ⟨root, _, _, took⟩
  · rw [refused]
  · rw [took]

/-- A choice that is offered draws a name for each node of its tree, and any other draws none. -/
theorem drawsAtMost_select
    (standard : session.catalogs.IsStandard)
    (entry : NodeId) :
    DrawsAtMost Catalog.largest session.ids (session.select entry).1.ids := by
  by_cases offered : ∃ node template, session.Offers entry node template
  · obtain ⟨node, template, offers⟩ := offered
    rw [offers.select_eq_replace, ids_replace]
    obtain ⟨catalog, choice, _, _, shown, chosen, terminal⟩ := offers
    have size := List.all_eq_true.1 (Catalog.length_written node.type session.ids) template
      (standard.mem_written shown chosen terminal)
    refine ⟨_, of_decide_eq_true size, ?_⟩
    rw [(standard.isSkeleton shown chosen terminal).drawn, IdSource.after_eq_skip]
  · rw [select_eq_of_not_offers offered]
    exact (DrawsAtMost.refl session.ids).mono (Nat.zero_le _)

theorem drawsAtMost_setLeaf
    (session : Session)
    (id : NodeId)
    (kind : LeafKind)
    (literal : String) :
    DrawsAtMost 1 session.ids (session.setLeaf id kind literal).1.ids := by
  rcases session.setLeaf_cases id kind literal with
    ⟨answer, _, refused⟩ | ⟨target, leaf, _, _, _, _, rfl, typed⟩
  · rw [refused]
    exact (DrawsAtMost.refl session.ids).mono (Nat.zero_le 1)
  · rw [typed, ids_replace]
    exact ⟨1, Nat.le_refl 1, rfl⟩

theorem drawsAtMost_perform
    (standard : session.catalogs.IsStandard)
    (operation : Operation) :
    DrawsAtMost operation.mostDraws session.ids (session.perform operation).1.ids := by
  have nothing {later : IdSource} (same : later = session.ids) :
      DrawsAtMost 0 session.ids later :=
    same ▸ DrawsAtMost.refl session.ids
  cases operation with
  | openMenu id => exact nothing (session.sameContent_openMenu id).ids
  | closeMenu => exact nothing rfl
  | click id => exact nothing (session.sameContent_click id).ids
  | setLocked locked => exact nothing (session.sameContent_setLocked locked).ids
  | hover depth entry => exact nothing (session.sameContent_expand _).ids
  | expand path => exact nothing (session.sameContent_expand path).ids
  | select entry => exact drawsAtMost_select standard entry
  | replace id subtree => exact nothing (session.ids_replace id subtree)
  | setLabel id label => exact nothing (session.ids_setLabel id label)
  | setLeaf id kind literal =>
      rw [perform_setLeaf]
      exact session.drawsAtMost_setLeaf id kind literal

/-- The source of a session only moves on, and by no more than the operations draw. -/
theorem drawsAtMost_performAll
    (standard : session.catalogs.IsStandard)
    (operations : List Operation) :
    DrawsAtMost (mostDraws operations) session.ids (session.performAll operations).ids := by
  induction operations generalizing session with
  | nil => exact .refl session.ids
  | cons operation rest restHypothesis =>
      have first := drawsAtMost_perform standard operation
      exact first.trans (restHypothesis (session.catalogs_perform operation ▸ standard))

/-- The session that starts on a tree and draws from a sequence. -/
def counting
    (ids : SequentialIds)
    (root : Tree)
    (catalogs : Catalogs) : Session where
  root
  catalogs
  ids := ids.source

end Session
end ContingentClaims
