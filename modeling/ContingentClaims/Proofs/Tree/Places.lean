import ContingentClaims.Proofs.Session.Splice
import ContingentClaims.Proofs.Term.Parts

/-!
# Places in a tree

A node below the root is the child of some node, at some position among its siblings. This
decides which slot it occupies and whether it is an alternative. In a tree with distinct
identifiers the searches by identifier give the answer (`parentOf?_eq_some_iff`,
`slotOf?_eq_some_iff`, `isElectable_iff`).
-/

namespace ContingentClaims
namespace Tree

/-- A node of the tree has a child with an identifier at a position. -/
def HasChild
    (root parent : Tree)
    (position : Nat)
    (id : NodeId) : Prop :=
  parent ∈ root.walk ∧ (parent.children[position]?).map (·.id) = some id

/-- The node with an identifier occupies a slot of its parent. -/
def Occupies
    (root : Tree)
    (id : NodeId)
    (slot : Slot) : Prop :=
  ∃ parent position signature, root.HasChild parent position id ∧
    Signature.of? parent.type parent.tag = some signature ∧
    signature.slotAt? position = some slot

/-- The node with an identifier is an alternative: a child of a choice, or the second child
of an option. -/
def IsAlternative
    (root : Tree)
    (id : NodeId) : Prop :=
  ∃ parent position, root.HasChild parent position id ∧
    takesLabel parent.type parent.tag position = true

variable {root : Tree} {id : NodeId}

/-! ## Searching -/

theorem mem_ids_iff (root : Tree) (id : NodeId) :
    id ∈ root.ids ↔ ∃ node ∈ root.walk, node.id = id := by
  rw [ids, List.mem_map]

/-- Every node that is visited stands in some context. -/
theorem exists_context_of_mem_walk
    {node : Tree}
    (present : node ∈ root.walk) :
    ∃ context : Context, root = context.plug node := by
  rw [walk_eq_preorder] at present
  exact exists_context_of_mem_preorder present

/-- An identifier of the tree is that of a node in some context. -/
theorem exists_context_of_mem_ids (present : id ∈ root.ids) :
    ∃ (context : Context) (node : Tree), root = context.plug node ∧ node.id = id := by
  obtain ⟨node, isNode, named⟩ := (mem_ids_iff root id).1 present
  obtain ⟨context, whole⟩ := exists_context_of_mem_walk isNode
  exact ⟨context, node, whole, named⟩

/-- The node that is found is the one with the identifier. -/
theorem find?_eq_some_iff
    {node : Tree}
    (distinct : root.ids.Nodup) :
    root.find? id = some node ↔ node ∈ root.walk ∧ node.id = id := by
  constructor
  · intro found
    obtain ⟨_, _, named, _⟩ := exists_context_of_find? found
    rw [walk_eq_preorder]
    exact ⟨mem_preorder_of_find? found, named⟩
  · rintro ⟨present, rfl⟩
    obtain ⟨context, whole⟩ := exists_context_of_mem_walk present
    exact Context.find?_of_distinct whole distinct

/-- A node is known by its identifier. -/
theorem eq_of_id_eq
    {node other : Tree}
    (distinct : root.ids.Nodup)
    (nodePresent : node ∈ root.walk)
    (otherPresent : other ∈ root.walk)
    (same : node.id = other.id) :
    node = other := by
  have found := (find?_eq_some_iff distinct).2 ⟨nodePresent, same⟩
  have foundOther := (find?_eq_some_iff distinct).2 ⟨otherPresent, rfl⟩
  exact Option.some.inj (found.symm.trans foundOther)

/-- A child in its parent's place. -/
theorem HasChild.exists_context
    {parent : Tree}
    {position : Nat}
    (child : root.HasChild parent position id) :
    ∃ (frame : Frame) (outer : Context) (node : Tree),
      root = Context.plug (frame :: outer) node ∧ node.id = id ∧
        frame.fill node = parent ∧ frame.position = position := by
  obtain ⟨present, named⟩ := child
  obtain ⟨outer, whole⟩ := exists_context_of_mem_walk present
  obtain ⟨node, isChild, named⟩ := Option.map_eq_some_iff.1 named
  obtain ⟨inside, here⟩ := List.getElem?_eq_some_iff.1 isChild
  have split : parent.children =
      parent.children.take position ++ node :: parent.children.drop (position + 1) := by
    rw [← here, ← List.drop_eq_getElem_cons inside, List.take_append_drop]
  have filled := Frame.fill_around split
  refine ⟨_, outer, node, ?_, named, filled, ?_⟩
  · rw [Context.plug_cons, filled, whole]
  · exact List.length_take_of_le (Nat.le_of_lt inside)

/-- The parent that is found is the one that has the child. -/
theorem parentOf?_eq_some_iff
    {parent : Tree}
    {position : Nat}
    (distinct : root.ids.Nodup) :
    root.parentOf? id = some (parent, position) ↔ root.HasChild parent position id := by
  constructor
  · intro found
    have below : id ∈ root.idsBelow := by
      by_contra absent
      rw [idsBelow_eq] at absent
      rw [parentOf?_eq_none absent] at found
      cases found
    obtain ⟨context, node, rfl, rfl⟩ := exists_context_of_mem_ids (mem_ids_of_mem_idsBelow below)
    obtain ⟨notBefore, _, notBelow⟩ := Context.distinct_parts distinct
    cases context with
    | nil => exact absurd below notBelow
    | cons frame outer =>
        rw [Context.parentOf?_plug notBefore, Option.some.injEq] at found
        obtain ⟨rfl, rfl⟩ := Prod.mk.inj found
        refine ⟨?_, by simp [Frame.position]⟩
        rw [walk_eq_preorder]
        exact Context.mem_preorder_plug outer (frame.fill node)
  · intro child
    obtain ⟨frame, outer, node, rfl, rfl, rfl, rfl⟩ := child.exists_context
    exact Context.parentOf?_plug (Context.distinct_parts distinct).1

/-- The slot that is found is the one that the node occupies. -/
theorem slotOf?_eq_some_iff
    {slot : Slot}
    (distinct : root.ids.Nodup) :
    root.slotOf? id = some slot ↔ root.Occupies id slot := by
  simp only [slotOf?, Option.bind_eq_bind, Option.bind_eq_some_iff, Prod.exists,
    parentOf?_eq_some_iff distinct, Occupies]
  constructor
  · rintro ⟨parent, position, child, signature, known, here⟩
    exact ⟨parent, position, signature, child, known, here⟩
  · rintro ⟨parent, position, signature, child, known, here⟩
    exact ⟨parent, position, child, signature, known, here⟩

/-- The node is taken for an alternative exactly if it is one. -/
theorem isElectable_iff (distinct : root.ids.Nodup) :
    root.isElectable id = true ↔ root.IsAlternative id := by
  rw [isElectable]
  constructor
  · intro electable
    split at electable
    next parent position found =>
      exact ⟨parent, position, (parentOf?_eq_some_iff distinct).1 found, electable⟩
    next missing => cases electable
  · rintro ⟨parent, position, child, labelled⟩
    rw [(parentOf?_eq_some_iff distinct).2 child]
    exact labelled

end Tree
end ContingentClaims
