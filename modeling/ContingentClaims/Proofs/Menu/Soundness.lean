import ContingentClaims.Proofs.Menu.Skeletons
import ContingentClaims.Proofs.Session.Invariant

/-!
# What a session can make

As long as no subtree is put into the tree from outside, every node of a session's
tree comes from a template of the menus or from typed input. So what is submitted is
in the class of terms made with the menus.
-/

namespace ContingentClaims

namespace Context

/-- A node is exchanged in a tree made with the menus. -/
theorem isMenuMade_plug
    {context : Context}
    {node other : Tree}
    (made : (context.plug node).IsMenuMade)
    (otherMade : other.IsMenuMade) :
    (context.plug other).IsMenuMade ∧ node.IsMenuMade := by
  induction context generalizing node other with
  | nil => exact ⟨otherMade, made⟩
  | cons frame outer outerHypothesis =>
      have parentMade : (frame.fill node).IsMenuMade := (outerHypothesis made made).2
      obtain ⟨frameMade, childrenMade⟩ := (Tree.isMenuMade_iff _).1 parentMade
      have filledMade : (frame.fill other).IsMenuMade := by
        rw [Tree.isMenuMade_iff]
        refine ⟨Tree.isMenuNode_congr frameMade rfl rfl (by simp) rfl, fun child isChild => ?_⟩
        simp only [Frame.children_fill, List.mem_append, List.mem_cons] at isChild
        rcases isChild with isBefore | rfl | isBehind
        · exact childrenMade child (by simp [isBefore])
        · exact otherMade
        · exact childrenMade child (by simp [isBehind])
      exact ⟨(outerHypothesis made filledMade).1, childrenMade node (by simp)⟩

end Context

namespace Tree

theorem isMenuMade_congr
    {left right : Tree}
    (made : left.IsMenuMade)
    (sameTag : left.tag = right.tag)
    (sameType : left.type = right.type)
    (sameChildren : left.children = right.children)
    (sameValue : left.value = right.value) :
    right.IsMenuMade := by
  rw [isMenuMade_iff] at made ⊢
  rw [← sameChildren]
  exact ⟨isMenuNode_congr made.1 sameTag sameType (by rw [sameChildren]) sameValue, made.2⟩

theorem isMenuMade_splice
    {root subtree changed : Tree}
    {id : NodeId}
    (distinct : root.ids.Nodup)
    (made : root.IsMenuMade)
    (subtreeMade : subtree.IsMenuMade)
    (spliced : root.splice? id subtree = some changed) :
    changed.IsMenuMade := by
  obtain ⟨context, node, rfl, rfl, _, _, _, rfl⟩ := exists_context_of_splice? distinct spliced
  have takenOver (keepText : Bool) : (subtree.takeOver keepText node).IsMenuMade :=
    isMenuMade_congr subtreeMade rfl rfl rfl rfl
  exact (Context.isMenuMade_plug made (takenOver _)).1

theorem isMenuMade_relabel
    {root changed : Tree}
    {id : NodeId}
    {label : String}
    (distinct : root.ids.Nodup)
    (made : root.IsMenuMade)
    (relabelled : root.relabel? id label = some changed) :
    changed.IsMenuMade := by
  obtain ⟨context, node, rfl, rfl, _, rfl⟩ := exists_context_of_relabel? distinct relabelled
  have nodeMade := (Context.isMenuMade_plug made made).2
  have renamed : (node.withText label).IsMenuMade :=
    isMenuMade_congr nodeMade rfl rfl rfl rfl
  exact (Context.isMenuMade_plug made renamed).1

/-- An open slot is as the menus leave it. -/
theorem isMenuMade_placeholder
    (id : NodeId)
    (type : NodeType) :
    (placeholder id type).IsMenuMade := by
  rw [isMenuMade_iff]
  refine ⟨⟨?_, by simp [placeholder]⟩, by simp [placeholder]⟩
  cases type <;> rfl

/-- The node of a typed leaf is as typed input leaves it. -/
theorem isMenuMade_encode
    {kind : LeafKind}
    {literal : String}
    {leaf : Leaf}
    (read : Leaf.ofLiteral kind literal = .ok leaf)
    (source : IdSource) :
    (leaf.encode.run source).1.IsMenuMade := by
  have typed := (Leaf.isTyped_of_ofLiteral read).2
  have node : (leaf.encode.run source).1 =
      { ofLeaf source.peek leaf with text := leaf.caption } := rfl
  rw [isMenuMade_iff, node]
  refine ⟨⟨rfl, ?_⟩, by simp [ofLeaf]⟩
  rintro other carried
  obtain rfl := Option.some.inj carried
  exact typed

end Tree

namespace Session

variable {session : Session}

/-- Every change but a given subtree leaves a tree made with the menus. -/
theorem isMenuMade_of_changes
    {operation : Operation}
    {root : Tree}
    (standard : session.catalogs.IsStandard)
    (distinct : session.root.ids.Nodup)
    (made : session.root.IsMenuMade)
    (noReplace : ∀ id subtree, operation ≠ .replace id subtree)
    (changes : session.Changes operation root) :
    root.IsMenuMade := by
  cases changes with
  | nothing => exact made
  | replaced spliced => exact absurd rfl (noReplace _ _)
  | selected opened shown found offered spliced =>
      obtain ⟨_, _, shown⟩ := Option.bind_eq_some_iff.1 shown
      obtain ⟨node, _, shown⟩ := Option.bind_eq_some_iff.1 shown
      have skeleton := standard.isSkeleton shown found offered
      exact Tree.isMenuMade_splice distinct made (skeleton.isMenuMade session.ids) spliced
  | labelled relabelled => exact Tree.isMenuMade_relabel distinct made relabelled
  | typed read spliced =>
      exact Tree.isMenuMade_splice distinct made (Tree.isMenuMade_encode read _) spliced

/-- Operations other than replacements leave a tree made with the menus. -/
theorem isMenuMade_performAll
    {rootId : NodeId}
    {operations : List Operation}
    (standard : session.catalogs.IsStandard)
    (sound : session.root.IsSound rootId)
    (made : session.root.IsMenuMade)
    (noReplace : ∀ operation ∈ operations, ∀ id subtree, operation ≠ .replace id subtree) :
    (session.performAll operations).root.IsMenuMade := by
  induction operations generalizing session with
  | nil => exact made
  | cons operation rest restHypothesis =>
      obtain ⟨operationNoReplace, restNoReplace⟩ := List.forall_mem_cons.1 noReplace
      have changes := session.changes_perform operation
      refine restHypothesis ?_ ?_ ?_ restNoReplace
      · rw [catalogs_perform]
        exact standard
      · exact isSound_perform sound operation
      · exact isMenuMade_of_changes standard sound.distinct made operationNoReplace changes

end Session
end ContingentClaims
