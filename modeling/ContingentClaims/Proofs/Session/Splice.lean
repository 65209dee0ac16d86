import ContingentClaims.Proofs.Grammar.Exchange
import ContingentClaims.Proofs.Menu.Entries
import ContingentClaims.Session.Operation

/-!
# Splicing a subtree

In a tree with distinct identifiers, the searches by identifier that an edit makes
all arrive at one place, the context of the node. So an edit is an exchange in this
context: `splice?_plug` and `relabel?_plug` say when it is made and what comes out.
-/

namespace ContingentClaims

/-! ## Distinct identifiers -/

namespace Tree

theorem idsBelow_eq (tree : Tree) : tree.idsBelow = idsOfAll tree.children := by
  rw [idsBelow, ids_eq]
  rfl

theorem ids_eq_cons_idsBelow (tree : Tree) : tree.ids = tree.id :: tree.idsBelow := by
  rw [ids_eq, idsBelow_eq]

theorem mem_ids_of_mem_idsBelow
    {tree : Tree}
    {id : NodeId}
    (isBelow : id ∈ tree.idsBelow) :
    id ∈ tree.ids := by
  rw [ids_eq_cons_idsBelow]
  exact List.mem_cons_of_mem _ isBelow

theorem nodup_idsBelow
    {tree : Tree}
    (distinct : tree.ids.Nodup) :
    tree.idsBelow.Nodup := by
  rw [ids_eq_cons_idsBelow] at distinct
  exact (List.nodup_cons.1 distinct).2

/-- A subtree that takes over a node has its identifier. -/
theorem ids_takeOver
    (subtree : Tree)
    (keepText : Bool)
    (node : Tree) :
    (subtree.takeOver keepText node).ids = node.id :: subtree.idsBelow := by
  rw [ids_eq, idsBelow_eq]
  rfl

theorem ids_withText
    (tree : Tree)
    (text : String) :
    (tree.withText text).ids = tree.ids := by
  rw [ids_eq, ids_eq]
  rfl

/-- A subtree passes the grammar as well where it takes over a node. -/
theorem grammatical_takeOver_iff
    (subtree : Tree)
    (keepText : Bool)
    (node : Tree) :
    (subtree.takeOver keepText node).Grammatical ↔ subtree.Grammatical := by
  have sameDefect : (subtree.takeOver keepText node).defect? = subtree.defect? :=
    defect?_congr rfl rfl rfl rfl
  rw [grammatical_iff, grammatical_iff, sameDefect]
  rfl

end Tree

namespace Context

theorem distinct_parts
    {context : Context}
    {tree : Tree}
    (distinct : (context.plug tree).ids.Nodup) :
    tree.id ∉ context.idsBefore ∧ tree.id ∉ context.idsBehind ∧
      tree.id ∉ tree.idsBelow := by
  rw [ids_plug, Tree.ids_eq_cons_idsBelow, List.append_assoc, List.nodup_append,
    List.cons_append, List.nodup_cons, List.mem_append, not_or] at distinct
  obtain ⟨_, ⟨⟨notBelow, notBehind⟩, _⟩, apart⟩ := distinct
  refine ⟨fun isBefore => ?_, notBehind, notBelow⟩
  exact apart tree.id isBefore tree.id (by simp) rfl

/-- A node in its context is the one that is found by its identifier. -/
theorem find?_of_distinct
    {root node : Tree}
    {context : Context}
    (whole : root = context.plug node)
    (distinct : root.ids.Nodup) :
    root.find? node.id = some node := by
  subst whole
  exact find?_plug_self (distinct_parts distinct).1

/-- The slot that the searches report for a node is that of its context. -/
theorem slotOf?_plug
    {context : Context}
    {tree : Tree}
    (distinct : (context.plug tree).ids.Nodup) :
    (context.plug tree).slotOf? tree.id = context.slot? := by
  obtain ⟨notBefore, notBehind, notBelow⟩ := distinct_parts distinct
  cases context with
  | nil =>
      rw [Tree.idsBelow_eq] at notBelow
      simp [Tree.slotOf?, plug_nil, Tree.parentOf?_eq_none notBelow, slot?]
  | cons frame outer =>
      rw [Tree.slotOf?, parentOf?_plug notBefore]
      rfl

/-- A node is an alternative if its context says so. -/
theorem isElectable_plug
    {context : Context}
    {tree : Tree}
    (distinct : (context.plug tree).ids.Nodup) :
    (context.plug tree).isElectable tree.id = context.isElectable := by
  obtain ⟨notBefore, notBehind, notBelow⟩ := distinct_parts distinct
  cases context with
  | nil =>
      rw [Tree.idsBelow_eq] at notBelow
      simp [Tree.isElectable, plug_nil, Tree.parentOf?_eq_none notBelow, isElectable]
  | cons frame outer =>
      rw [Tree.isElectable, parentOf?_plug notBefore]
      rfl

/-! ## Admissible subtrees -/

/-- Whether a subtree suits the place of a node: it fits the slot, or at the root it
has the type of the node. -/
def suits
    (context : Context)
    (node subtree : Tree) : Bool :=
  match context.slot? with
  | some slot => slot.accepts subtree
  | none => subtree.type == node.type

/-- Any subtree of the same type suits the place of an operator node. -/
theorem suits_of_type
    {context : Context}
    {node subtree : Tree}
    (valid : (context.plug node).Grammatical)
    (operator : node.type ≠ .value)
    (same : subtree.type = node.type) :
    context.suits node subtree = true := by
  cases context with
  | nil => simp [suits, slot?, same]
  | cons frame outer =>
      obtain ⟨slot, found, accepted⟩ := exists_slot?_of_grammatical valid
      have typed := Slot.type_of_accepts accepted
      rw [suits, found]
      cases slot with
      | leaf kind => exact absurd typed operator
      | claim => simp [Slot.accepts, same, typed]
      | observation => simp [Slot.accepts, same, typed]
      | inequality => simp [Slot.accepts, same, typed]

theorem fitsAt_plug
    {context : Context}
    {node : Tree}
    (distinct : (context.plug node).ids.Nodup)
    (subtree : Tree) :
    (context.plug node).fitsAt node subtree = context.suits node subtree := by
  unfold Tree.fitsAt
  rw [slotOf?_plug distinct]
  rfl

/-- The identifiers that stay in a tree when the nodes below one of its nodes
leave. -/
theorem staying_plug
    {context : Context}
    {node : Tree}
    (distinct : (context.plug node).ids.Nodup) :
    ((context.plug node).ids.filter fun id => id ∉ node.idsBelow) =
      context.idsBefore ++ node.id :: context.idsBehind := by
  have split : (context.plug node).ids =
      context.idsBefore ++ (node.id :: (node.idsBelow ++ context.idsBehind)) := by
    rw [ids_plug, Tree.ids_eq_cons_idsBelow, List.append_assoc, List.cons_append]
  rw [split] at distinct ⊢
  obtain ⟨_, inner, apart⟩ := List.nodup_append.1 distinct
  obtain ⟨notInner, inner⟩ := List.nodup_cons.1 inner
  obtain ⟨_, _, apartBehind⟩ := List.nodup_append.1 inner
  have beforeStays : ∀ id ∈ context.idsBefore, id ∉ node.idsBelow := by
    intro id isBefore isBelow
    exact apart id isBefore id (by simp [isBelow]) rfl
  have behindStays : ∀ id ∈ context.idsBehind, id ∉ node.idsBelow := by
    intro id isBehind isBelow
    exact apartBehind id isBelow id isBehind rfl
  have nodeStays : node.id ∉ node.idsBelow := by
    intro isBelow
    exact notInner (List.mem_append_left _ isBelow)
  have belowLeaves : (node.idsBelow.filter fun id => id ∉ node.idsBelow) = [] := by
    simp
  rw [List.filter_append, List.filter_cons_of_pos (by simpa using nodeStays),
    List.filter_append, belowLeaves, List.nil_append,
    List.filter_eq_self.2 (by simpa using beforeStays),
    List.filter_eq_self.2 (by simpa using behindStays)]

theorem nodup_staying
    {context : Context}
    {node : Tree}
    (distinct : (context.plug node).ids.Nodup) :
    (context.idsBefore ++ node.id :: context.idsBehind).Nodup := by
  rw [← staying_plug distinct]
  exact distinct.filter _

/-- The identifiers behind an exchange are those that come with the subtree and
those that stay. -/
theorem ids_plug_takeOver
    (context : Context)
    (node subtree : Tree)
    (keepText : Bool) :
    ((context.plug (subtree.takeOver keepText node)).ids).Perm
      (subtree.idsBelow ++ (context.idsBefore ++ node.id :: context.idsBehind)) := by
  rw [ids_plug, Tree.ids_takeOver]
  simp only [List.append_assoc, List.cons_append]
  refine List.Perm.trans (List.perm_append_left_iff _ |>.2 List.perm_middle.symm) ?_
  rw [← List.append_assoc, ← List.append_assoc]
  exact List.perm_append_comm.append_right _

/-- An identifier behind an exchange comes with the subtree or was there before. -/
theorem mem_ids_of_plug_takeOver
    {context : Context}
    {node subtree : Tree}
    {keepText : Bool}
    {id : NodeId}
    (present : id ∈ (context.plug (subtree.takeOver keepText node)).ids) :
    id ∈ subtree.idsBelow ∨ id ∈ (context.plug node).ids := by
  rw [(ids_plug_takeOver context node subtree keepText).mem_iff, List.mem_append] at present
  refine present.imp_right fun stays => ?_
  rw [ids_plug, Tree.ids_eq_cons_idsBelow]
  simp only [List.mem_append, List.mem_cons] at stays ⊢
  rcases stays with isBefore | isNode | isBehind
  · exact Or.inl (Or.inl isBefore)
  · exact Or.inl (Or.inr (Or.inl isNode))
  · exact Or.inr isBehind

/-- There is no clash exactly if the identifiers stay distinct. -/
theorem clash?_plug_eq_none_iff
    {context : Context}
    {node : Tree}
    (distinct : (context.plug node).ids.Nodup)
    (subtree : Tree)
    (keepText : Bool) :
    (context.plug node).clash? node subtree = none ↔
      (context.plug (subtree.takeOver keepText node)).ids.Nodup := by
  have rearranged := ids_plug_takeOver context node subtree keepText
  rw [Tree.clash?, firstRepeated?_eq_none_iff, staying_plug distinct, rearranged.nodup_iff,
    List.nodup_append]
  constructor
  · rintro ⟨below, apart⟩
    refine ⟨below, nodup_staying distinct, ?_⟩
    rintro id isBelow _ stays rfl
    exact apart id isBelow stays
  · rintro ⟨below, _, apart⟩
    exact ⟨below, fun id isBelow stays => apart id isBelow id stays rfl⟩

/-- New identifiers leave the identifiers distinct. -/
theorem nodup_plug_takeOver
    {context : Context}
    {node subtree : Tree}
    (distinct : (context.plug node).ids.Nodup)
    (below : subtree.idsBelow.Nodup)
    (fresh : ∀ id ∈ subtree.idsBelow, id ∉ (context.plug node).ids)
    (keepText : Bool) :
    (context.plug (subtree.takeOver keepText node)).ids.Nodup := by
  rw [← clash?_plug_eq_none_iff distinct, Tree.clash?, firstRepeated?_eq_none_iff]
  refine ⟨below, fun id isBelow stays => ?_⟩
  exact fresh id isBelow (List.mem_of_mem_filter stays)

/-! ## Edits in a context -/

/-- A subtree is spliced in if it is valid, suits the place, and leaves the
identifiers distinct; it takes over the node in its context. -/
theorem splice?_plug
    {context : Context}
    {node : Tree}
    (distinct : (context.plug node).ids.Nodup)
    (subtree changed : Tree) :
    (context.plug node).splice? node.id subtree = some changed ↔
      subtree.Grammatical ∧ context.suits node subtree = true ∧ changed.ids.Nodup ∧
        changed = context.plug
          (subtree.takeOver (subtree.text.isNone && context.isElectable) node) := by
  obtain ⟨notBefore, _, _⟩ := distinct_parts distinct
  have changes (keepText : Bool) :
      (context.plug node).update? node.id (subtree.takeOver keepText) =
        some (context.plug (subtree.takeOver keepText node)) :=
    update?_plug_self notBefore (subtree.takeOver keepText)
  have noClash := clash?_plug_eq_none_iff distinct subtree
    (subtree.text.isNone && context.isElectable)
  rw [Tree.splice?, find?_plug_self notBefore]
  simp only [fitsAt_plug distinct, isElectable_plug distinct, changes]
  split
  next admitted =>
    simp only [Bool.and_eq_true, Option.isNone_iff_eq_none, noClash, Tree.isValid_iff]
      at admitted
    obtain ⟨⟨valid, suitable⟩, stays⟩ := admitted
    rw [Option.some.injEq]
    constructor
    · rintro rfl
      exact ⟨valid, suitable, stays, rfl⟩
    · rintro ⟨_, _, _, rfl⟩
      rfl
  next refused =>
    simp only [Bool.and_eq_true, Option.isNone_iff_eq_none, noClash, Tree.isValid_iff]
      at refused
    constructor
    · simp
    · rintro ⟨valid, suitable, stays, rfl⟩
      exact absurd ⟨⟨valid, suitable⟩, stays⟩ refused

/-- A label is put on an alternative that has another one. -/
theorem relabel?_plug
    {context : Context}
    {node : Tree}
    (distinct : (context.plug node).ids.Nodup)
    (label : String) :
    (context.plug node).relabel? node.id label =
      if context.isElectable && node.text != some label then
        some (context.plug (node.withText label))
      else
        none := by
  obtain ⟨notBefore, _, _⟩ := distinct_parts distinct
  have changes := update?_plug_self notBefore fun tree => tree.withText label
  rw [Tree.relabel?, find?_plug_self notBefore]
  simp only [isElectable_plug distinct, changes]

end Context

namespace Tree

/-- An edit that takes place is one in the context of its node. -/
theorem exists_context_of_splice?
    {root subtree changed : Tree}
    {id : NodeId}
    (distinct : root.ids.Nodup)
    (spliced : root.splice? id subtree = some changed) :
    ∃ (context : Context) (node : Tree),
      root = context.plug node ∧ node.id = id ∧ subtree.Grammatical ∧
        context.suits node subtree = true ∧ changed.ids.Nodup ∧
        changed = context.plug
          (subtree.takeOver (subtree.text.isNone && context.isElectable) node) := by
  cases found : root.find? id with
  | none => simp [splice?, found] at spliced
  | some node =>
      obtain ⟨context, rfl, rfl, _⟩ := exists_context_of_find? found
      exact ⟨context, node, rfl, rfl, (Context.splice?_plug distinct subtree changed).1 spliced⟩

/-- A label that is changed is changed in the context of its node. -/
theorem exists_context_of_relabel?
    {root changed : Tree}
    {id : NodeId}
    {label : String}
    (distinct : root.ids.Nodup)
    (relabelled : root.relabel? id label = some changed) :
    ∃ (context : Context) (node : Tree),
      root = context.plug node ∧ node.id = id ∧ context.isElectable = true ∧
        changed = context.plug (node.withText label) := by
  cases found : root.find? id with
  | none => simp [relabel?, found] at relabelled
  | some node =>
      obtain ⟨context, rfl, rfl, _⟩ := exists_context_of_find? found
      rw [Context.relabel?_plug distinct label] at relabelled
      split at relabelled
      next allowed =>
        rw [Bool.and_eq_true] at allowed
        exact ⟨context, node, rfl, rfl, allowed.1, (Option.some.inj relabelled).symm⟩
      next refused => simp at relabelled

end Tree
end ContingentClaims
