import ContingentClaims.Proofs.Session.Splice
import ContingentClaims.Proofs.Session.Steps
import Mathlib.Data.List.Nodup

/-!
# Repeated identifiers

Nothing keeps a tree from having an identifier twice when it comes into a session. Every
edit then falls on the first node with the identifier, in pre-order
(`exists_place_of_splice?`, `exists_place_of_relabel?`), and no run of operations adds to
the repetitions: an identifier occurs no more often than in the tree of the start, or
once.
-/

namespace ContingentClaims

namespace Context

/-- The nodes with an identifier are those before the missing node, those of the tree in
its place, and those behind. -/
theorem count_ids_plug
    (context : Context)
    (tree : Tree)
    (id : NodeId) :
    (context.plug tree).ids.count id =
      context.idsBefore.count id + tree.ids.count id + context.idsBehind.count id := by
  rw [ids_plug, List.count_append, List.count_append]

/-- A subtree that brings no clash repeats no identifier that is not repeated already. An
identifier that it brings is new to the tree, or takes the place of one that leaves. -/
theorem count_ids_takeOver_le
    {context : Context}
    {node subtree : Tree}
    (noClash : (context.plug node).clash? node subtree = none)
    (keepText : Bool)
    (id : NodeId) :
    (context.plug (subtree.takeOver keepText node)).ids.count id ≤
      max 1 ((context.plug node).ids.count id) := by
  obtain ⟨distinct, apart⟩ := (firstRepeated?_eq_none_iff _ _).1 noClash
  have before := context.count_ids_plug node id
  have after := context.count_ids_plug (subtree.takeOver keepText node) id
  rw [Tree.ids_eq_cons_idsBelow node, List.count_cons] at before
  rw [Tree.ids_takeOver, List.count_cons] at after
  by_cases brought : id ∈ subtree.idsBelow
  · have once : subtree.idsBelow.count id = 1 := List.count_eq_one_of_mem distinct brought
    by_cases leaves : id ∈ node.idsBelow
    · have left : 0 < node.idsBelow.count id := List.count_pos_iff.2 leaves
      omega
    · have isNew : (context.plug node).ids.count id = 0 := by
        rw [List.count_eq_zero]
        intro present
        exact apart id brought (List.mem_filter.2 ⟨present, by simpa using leaves⟩)
      omega
  · have never : subtree.idsBelow.count id = 0 := List.count_eq_zero.2 brought
    omega

end Context

namespace Tree

/-! ## The place of an edit -/

/-- A subtree that is spliced in takes over the first node with the identifier. -/
theorem exists_place_of_splice?
    {root subtree changed : Tree}
    {id : NodeId}
    (spliced : root.splice? id subtree = some changed) :
    ∃ (context : Context) (node : Tree) (keepText : Bool),
      root = context.plug node ∧ node.id = id ∧ id ∉ context.idsBefore ∧
        subtree.Grammatical ∧ root.fitsAt node subtree = true ∧
        root.clash? node subtree = none ∧
        changed = context.plug (subtree.takeOver keepText node) := by
  cases found : root.find? id with
  | none => simp [splice?, found] at spliced
  | some node =>
      obtain ⟨context, rfl, rfl, notBefore⟩ := exists_context_of_find? found
      simp only [splice?, found] at spliced
      split at spliced
      next admitted =>
        simp only [Bool.and_eq_true, Option.isNone_iff_eq_none, isValid_iff] at admitted
        obtain ⟨⟨valid, fits⟩, noClash⟩ := admitted
        rw [Context.update?_plug_self notBefore, Option.some.injEq] at spliced
        exact ⟨context, node, _, rfl, rfl, notBefore, valid, fits, noClash, spliced.symm⟩
      next refused => simp at spliced

/-- A label is put on the first node with the identifier. -/
theorem exists_place_of_relabel?
    {root changed : Tree}
    {id : NodeId}
    {label : String}
    (relabelled : root.relabel? id label = some changed) :
    ∃ (context : Context) (node : Tree),
      root = context.plug node ∧ node.id = id ∧ id ∉ context.idsBefore ∧
        changed = context.plug (node.withText label) := by
  cases found : root.find? id with
  | none => simp [relabel?, found] at relabelled
  | some node =>
      obtain ⟨context, rfl, rfl, notBefore⟩ := exists_context_of_find? found
      simp only [relabel?, found] at relabelled
      split at relabelled
      next allowed =>
        rw [Context.update?_plug_self notBefore fun tree => tree.withText label,
          Option.some.injEq] at relabelled
        exact ⟨context, node, rfl, rfl, notBefore, relabelled.symm⟩
      next refused => simp at relabelled

/-! ## Repetitions -/

theorem count_ids_splice_le
    {root subtree changed : Tree}
    {target : NodeId}
    (spliced : root.splice? target subtree = some changed)
    (id : NodeId) :
    changed.ids.count id ≤ max 1 (root.ids.count id) := by
  obtain ⟨context, node, keepText, rfl, _, _, _, _, noClash, rfl⟩ :=
    exists_place_of_splice? spliced
  exact Context.count_ids_takeOver_le noClash keepText id

theorem ids_relabel
    {root changed : Tree}
    {target : NodeId}
    {label : String}
    (relabelled : root.relabel? target label = some changed) :
    changed.ids = root.ids := by
  obtain ⟨context, node, rfl, _, _, rfl⟩ := exists_place_of_relabel? relabelled
  rw [Context.ids_plug, Context.ids_plug, ids_withText]

/-- No edit repeats an identifier that is not repeated already. -/
theorem count_ids_edit_le
    {root changed : Tree}
    (edited : root.EditsTo changed)
    (id : NodeId) :
    changed.ids.count id ≤ max 1 (root.ids.count id) := by
  cases edited with
  | splice spliced => exact count_ids_splice_le spliced id
  | relabel relabelled =>
      rw [ids_relabel relabelled]
      exact Nat.le_max_right 1 _

/-- The edits of a tree with distinct identifiers leave them distinct. -/
theorem nodup_ids_edit
    {root changed : Tree}
    (distinct : root.ids.Nodup)
    (edited : root.EditsTo changed) :
    changed.ids.Nodup := by
  rw [List.nodup_iff_count_le_one] at distinct ⊢
  intro id
  have bounded := count_ids_edit_le edited id
  have once := distinct id
  omega

end Tree

namespace Session

theorem count_ids_performAll_le
    (session : Session)
    (operations : List Operation)
    (id : NodeId) :
    (session.performAll operations).root.ids.count id ≤ max 1 (session.root.ids.count id) := by
  have keeps {root changed : Tree}
      (bounded : root.ids.count id ≤ max 1 (session.root.ids.count id))
      (edited : root.EditsTo changed) :
      changed.ids.count id ≤ max 1 (session.root.ids.count id) := by
    have step := Tree.count_ids_edit_le edited id
    omega
  exact performAll_keeps keeps (Nat.le_max_right 1 _) operations

theorem nodup_ids_performAll
    {session : Session}
    (distinct : session.root.ids.Nodup)
    (operations : List Operation) :
    (session.performAll operations).root.ids.Nodup :=
  performAll_keeps Tree.nodup_ids_edit distinct operations

/-- Whatever tree a session starts with and wherever its identifiers come from, editing
never repeats an identifier: it occurs at most once or no more often than at the start, so
distinct identifiers stay distinct. -/
theorem ids_performAll
    (session : Session)
    (operations : List Operation) :
    (∀ id, (session.performAll operations).root.ids.count id ≤
      max 1 (session.root.ids.count id)) ∧
    (session.root.ids.Nodup -> (session.performAll operations).root.ids.Nodup) :=
  ⟨session.count_ids_performAll_le operations,
    fun distinct => nodup_ids_performAll distinct operations⟩

end Session
end ContingentClaims
