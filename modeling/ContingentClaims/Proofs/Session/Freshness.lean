import ContingentClaims.Proofs.Ids.Draws
import ContingentClaims.Proofs.Session.Splice

/-!
# New names

Names that are still to come from a source are new to a tree if they are distinct and occur
nowhere in it. A subtree that carries such names can be spliced in wherever it suits
(`Context.splice?_of_isFreshFor`), and the names behind them are new to the tree that comes
out (`IdSource.IsFreshFor.skip`).
-/

namespace ContingentClaims

namespace IdSource

/-- The next names of a source are distinct and occur nowhere in a tree. -/
structure IsFreshFor
    (source : IdSource)
    (amount : Nat)
    (tree : Tree) : Prop where
  distinct : (source.upcoming amount).Nodup
  unused : ∀ id ∈ source.upcoming amount, id ∉ tree.ids

/-- Fewer names of the same source. -/
theorem IsFreshFor.mono
    {source : IdSource}
    {fewer amount : Nat}
    {tree : Tree}
    (fresh : source.IsFreshFor amount tree)
    (atMost : fewer ≤ amount) :
    source.IsFreshFor fewer tree := by
  have sublist : (source.upcoming fewer).Sublist (source.upcoming amount) :=
    (List.range_sublist.2 atMost).map _
  refine ⟨fresh.distinct.sublist sublist, ?_⟩
  intro id present
  exact fresh.unused id (sublist.subset present)

/-- Once the first of some new names have come into a tree, the others are still new. -/
theorem IsFreshFor.skip
    {source : IdSource}
    {first second : Nat}
    {tree changed : Tree}
    (fresh : source.IsFreshFor (first + second) tree)
    (grown : ∀ id ∈ changed.ids, id ∈ source.upcoming first ∨ id ∈ tree.ids) :
    (source.skip first).IsFreshFor second changed := by
  obtain ⟨distinct, unused⟩ := fresh
  rw [← names_eq_upcoming, names_add, names_eq_upcoming, names_eq_upcoming] at distinct unused
  obtain ⟨_, restDistinct, apart⟩ := List.nodup_append.1 distinct
  refine ⟨restDistinct, ?_⟩
  intro id later present
  rcases grown id present with isFirst | isOld
  · exact apart id isFirst id later rfl
  · exact unused id (List.mem_append_right _ later) isOld

end IdSource

/-- A subtree that carries new names is spliced in wherever it suits. -/
theorem Context.splice?_of_isFreshFor
    {context : Context}
    {node subtree : Tree}
    {source : IdSource}
    {amount : Nat}
    (distinct : (context.plug node).ids.Nodup)
    (valid : subtree.Grammatical)
    (suitable : context.suits node subtree = true)
    (numbered : subtree.ids = source.upcoming amount)
    (fresh : source.IsFreshFor amount (context.plug node)) :
    (context.plug node).splice? node.id subtree =
      some (context.plug
        (subtree.takeOver (subtree.text.isNone && context.isElectable) node)) := by
  have belowNew (id : NodeId) (isBelow : id ∈ subtree.idsBelow) :
      id ∈ source.upcoming amount :=
    numbered ▸ Tree.mem_ids_of_mem_idsBelow isBelow
  have belowDistinct : subtree.idsBelow.Nodup :=
    Tree.nodup_idsBelow (numbered ▸ fresh.distinct)
  rw [splice?_plug distinct]
  refine ⟨valid, suitable, nodup_plug_takeOver distinct belowDistinct ?_ _, rfl⟩
  intro id isBelow
  exact fresh.unused id (belowNew id isBelow)

end ContingentClaims
