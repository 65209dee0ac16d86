import ContingentClaims.Proofs.Session.Refusal
import ContingentClaims.Proofs.Tree.Places

/-!
# Replacements in the whole tree

Whether a subtree may take the place of a node is decided at this place: by the subtree,
the slot of the node and the identifiers in use. What it comes to is said here of the tree
as a whole. The tree in which the subtree stands in the place of the node is put together by
recursion (`Tree.spliced`), and the replacement is made exactly if this tree is valid, has
distinct identifiers and has a root of the same type (`replacesBySplicing`). Since a second
subtree in the same place leaves nothing of the first (`Tree.spliced_spliced`), the last
replacement of a node wins and can be undone (`replace_supersedes`).
-/

namespace ContingentClaims

/-! ## The spliced tree -/

namespace Tree

mutual

/-- The tree with a subtree in the place of a node. The node keeps its identifier, and an
alternative keeps its text if the subtree has none. The flag says whether the tree itself
stands in the place of an alternative. -/
def splicedAs
    (target : NodeId)
    (subtree : Tree)
    (alternative : Bool) : Tree -> Tree
  | ⟨id, tag, type, children, text, value⟩ =>
      if id = target then
        { subtree with
          id
          text := if alternative then subtree.text.or text else subtree.text }
      else
        ⟨id, tag, type, splicedAll target subtree (takesLabel type tag) 0 children, text, value⟩
termination_by structural tree => tree

/-- The children from a position on, with a subtree in the place of a node. -/
def splicedAll
    (target : NodeId)
    (subtree : Tree)
    (alternativeAt : Nat -> Bool)
    (position : Nat) : List Tree -> List Tree
  | [] => []
  | child :: rest =>
      splicedAs target subtree (alternativeAt position) child ::
        splicedAll target subtree alternativeAt (position + 1) rest
termination_by structural children => children

end

/-- The tree with a subtree in the place of the node with an identifier. The root is no
alternative. -/
def spliced
    (root : Tree)
    (id : NodeId)
    (subtree : Tree) : Tree :=
  splicedAs id subtree false root

theorem splicedAs_eq
    (target : NodeId)
    (subtree : Tree)
    (alternative : Bool)
    (tree : Tree) :
    splicedAs target subtree alternative tree =
      if tree.id = target then
        { subtree with
          id := tree.id
          text := if alternative then subtree.text.or tree.text else subtree.text }
      else
        { tree with
          children :=
            splicedAll target subtree (takesLabel tree.type tree.tag) 0 tree.children } := by
  cases tree
  rfl

theorem splicedAll_append
    (target : NodeId)
    (subtree : Tree)
    (alternativeAt : Nat -> Bool)
    (position : Nat)
    (front back : List Tree) :
    splicedAll target subtree alternativeAt position (front ++ back) =
      splicedAll target subtree alternativeAt position front ++
        splicedAll target subtree alternativeAt (position + front.length) back := by
  induction front generalizing position with
  | nil => rfl
  | cons child rest restHypothesis =>
      rw [List.cons_append, splicedAll, splicedAll, restHypothesis, List.length_cons,
        List.cons_append, Nat.add_right_comm, Nat.add_assoc]

theorem splicedAll_of_forall
    {target : NodeId}
    {subtree : Tree}
    {trees : List Tree}
    (unchanged : ∀ tree ∈ trees, ∀ alternative,
      splicedAs target subtree alternative tree = tree)
    (alternativeAt : Nat -> Bool)
    (position : Nat) :
    splicedAll target subtree alternativeAt position trees = trees := by
  induction trees generalizing position with
  | nil => rfl
  | cons tree rest restHypothesis =>
      obtain ⟨here, behind⟩ := List.forall_mem_cons.1 unchanged
      rw [splicedAll, here, restHypothesis behind]

/-- Where the identifier does not occur, nothing changes. -/
theorem splicedAs_of_not_mem
    {target : NodeId}
    {tree : Tree}
    (absent : target ∉ tree.ids)
    (subtree : Tree)
    (alternative : Bool) :
    splicedAs target subtree alternative tree = tree := by
  induction tree using childInduction generalizing alternative with
  | step tree childHypothesis =>
      obtain ⟨different, below⟩ := (not_mem_ids_iff target tree).1 absent
      have unchanged (child : Tree) (isChild : child ∈ tree.children) (alternative : Bool) :
          splicedAs target subtree alternative child = child :=
        childHypothesis child isChild (below child isChild) alternative
      rw [splicedAs_eq, if_neg different, splicedAll_of_forall unchanged]
      cases tree
      rfl

theorem splicedAll_of_not_mem
    {target : NodeId}
    {trees : List Tree}
    (absent : target ∉ idsOfAll trees)
    (subtree : Tree)
    (alternativeAt : Nat -> Bool)
    (position : Nat) :
    splicedAll target subtree alternativeAt position trees = trees := by
  apply splicedAll_of_forall
  intro tree present
  exact splicedAs_of_not_mem ((not_mem_idsOfAll_iff target trees).1 absent tree present) subtree

end Tree

namespace Context

/-- Only the node in the context changes if the identifier occurs nowhere else. -/
theorem splicedAs_plug
    {context : Context}
    {target : NodeId}
    (notBefore : target ∉ context.idsBefore)
    (notBehind : target ∉ context.idsBehind)
    (subtree tree : Tree) :
    Tree.splicedAs target subtree false (context.plug tree) =
      context.plug (Tree.splicedAs target subtree context.isElectable tree) := by
  induction context generalizing tree with
  | nil => rfl
  | cons frame outer outerHypothesis =>
      simp only [idsBefore_cons, List.mem_append, List.mem_cons, not_or] at notBefore
      simp only [idsBehind, List.mem_append, not_or] at notBehind
      obtain ⟨notOutside, notParent, notInFront⟩ := notBefore
      obtain ⟨notAfter, notOutsideBehind⟩ := notBehind
      have parentChanged : Tree.splicedAs target subtree (isElectable outer) (frame.fill tree) =
          frame.fill (Tree.splicedAs target subtree (isElectable (frame :: outer)) tree) := by
        rw [Tree.splicedAs_eq, Frame.id_fill, if_neg (Ne.symm notParent), Frame.children_fill,
          Tree.splicedAll_append, Tree.splicedAll_of_not_mem notInFront, Tree.splicedAll,
          Tree.splicedAll_of_not_mem notAfter, Nat.zero_add]
        rfl
      rw [plug_cons, outerHypothesis notOutside notOutsideBehind, parentChanged, plug_cons]

/-- In a tree with distinct identifiers the node is taken over in its context. -/
theorem spliced_plug
    {context : Context}
    {node : Tree}
    (distinct : (context.plug node).ids.Nodup)
    (subtree : Tree) :
    (context.plug node).spliced node.id subtree =
      context.plug (subtree.takeOver (subtree.text.isNone && context.isElectable) node) := by
  obtain ⟨notBefore, notBehind, _⟩ := distinct_parts distinct
  rw [Tree.spliced, splicedAs_plug notBefore notBehind, Tree.splicedAs_eq, if_pos rfl]
  congr 1
  cases context.isElectable <;> cases brought : subtree.text <;>
    simp [Tree.takeOver, brought]

/-! ## When the spliced tree is admissible -/

/-- A tree is valid with another node in a place of a valid tree if this node is valid and
the slot accepts it. -/
theorem grammatical_plug_iff
    {context : Context}
    {node other : Tree}
    (valid : (context.plug node).Grammatical) :
    (context.plug other).Grammatical ↔
      other.Grammatical ∧ ∀ slot, context.slot? = some slot -> slot.accepts other = true := by
  constructor
  · intro otherValid
    refine ⟨grammatical_of_plug otherValid, fun slot found => ?_⟩
    cases context with
    | nil => simp [slot?] at found
    | cons frame outer =>
        obtain ⟨here, known, accepted⟩ := exists_slot?_of_grammatical otherValid
        rw [known, Option.some.injEq] at found
        exact found ▸ accepted
  · rintro ⟨otherValid, fits⟩
    exact grammatical_plug valid otherValid fits

/-- A subtree suits a place if the slot accepts it and the root keeps its type. -/
theorem suits_iff
    {context : Context}
    {node : Tree}
    (valid : (context.plug node).Grammatical)
    (subtree : Tree) :
    context.suits node subtree = true ↔
      (∀ slot, context.slot? = some slot -> slot.accepts subtree = true) ∧
        (context.plug subtree).type = (context.plug node).type := by
  cases context with
  | nil => simp [suits, slot?]
  | cons frame outer =>
      obtain ⟨slot, found, _⟩ := exists_slot?_of_grammatical valid
      have sameRoot : (plug (frame :: outer) subtree).type =
          (plug (frame :: outer) node).type := by
        have sameParent : (frame.fill subtree).type = (frame.fill node).type := rfl
        rw [plug_cons, plug_cons]
        exact type_plug sameParent
      rw [sameRoot, suits, found]
      simp

end Context

namespace Tree

variable {root : Tree} {id : NodeId}

/-- A subtree is spliced in exactly if the tree that comes out is valid, has distinct
identifiers, and has a root of the same type. -/
theorem splice?_eq_some_iff
    {changed : Tree}
    (valid : root.Grammatical)
    (distinct : root.ids.Nodup)
    (subtree : Tree) :
    root.splice? id subtree = some changed ↔
      id ∈ root.ids ∧ changed = root.spliced id subtree ∧ changed.Grammatical ∧
        changed.ids.Nodup ∧ changed.type = root.type := by
  cases found : root.find? id with
  | none =>
      have absent := not_mem_ids_of_find?_eq_none found
      simp [splice?, found, absent]
  | some node =>
      obtain ⟨context, rfl, rfl, _⟩ := exists_context_of_find? found
      have present := (mem_ids_iff _ _).2 ⟨node, (find?_eq_some_iff distinct).1 found⟩
      rw [Context.splice?_plug distinct, Context.spliced_plug distinct]
      generalize (subtree.text.isNone && context.isElectable) = keepText
      have sameSlots (slot : Slot) :
          slot.accepts (subtree.takeOver keepText node) = slot.accepts subtree :=
        Slot.accepts_congr rfl rfl rfl
      have sameRoot : (context.plug (subtree.takeOver keepText node)).type =
          (context.plug subtree).type := Context.type_plug rfl
      constructor
      · rintro ⟨subtreeValid, suitable, stays, rfl⟩
        obtain ⟨fits, typed⟩ := (Context.suits_iff valid subtree).1 suitable
        refine ⟨present, rfl, ?_, stays, sameRoot.trans typed⟩
        rw [Context.grammatical_plug_iff valid, grammatical_takeOver_iff]
        simpa only [sameSlots] using And.intro subtreeValid fits
      · rintro ⟨_, rfl, changedValid, stays, typed⟩
        rw [Context.grammatical_plug_iff valid, grammatical_takeOver_iff] at changedValid
        simp only [sameSlots] at changedValid
        refine ⟨changedValid.1, ?_, stays, rfl⟩
        exact (Context.suits_iff valid subtree).2 ⟨changedValid.2, sameRoot.symm.trans typed⟩

/-- An identifier of the tree is one of the spliced tree. -/
theorem mem_ids_spliced
    (distinct : root.ids.Nodup)
    (present : id ∈ root.ids)
    (subtree : Tree) :
    id ∈ (root.spliced id subtree).ids := by
  obtain ⟨context, node, rfl, rfl⟩ := exists_context_of_mem_ids present
  rw [Context.spliced_plug distinct, Context.ids_plug, ids_takeOver]
  simp

/-! ## Repeated replacements -/

theorem isAlternative_plug_iff
    {context : Context}
    {node : Tree}
    (distinct : (context.plug node).ids.Nodup) :
    (context.plug node).IsAlternative node.id ↔ context.isElectable = true := by
  rw [← isElectable_iff distinct, Context.isElectable_plug distinct]

/-- Whether the text of a second subtree in the place of a node does not depend on the first:
the first brings none, or the second brings one, or the node is no alternative. -/
def LeavesNoLabel
    (root : Tree)
    (id : NodeId)
    (first second : Tree) : Prop :=
  first.text = none ∨ second.text ≠ none ∨ ¬ root.IsAlternative id

/-- Of two subtrees in the place of one node, only the second is left. -/
theorem spliced_spliced
    {first second : Tree}
    (distinct : root.ids.Nodup)
    (stays : (root.spliced id first).ids.Nodup)
    (present : id ∈ root.ids)
    (unlabelled : root.LeavesNoLabel id first second) :
    (root.spliced id first).spliced id second = root.spliced id second := by
  obtain ⟨context, node, rfl, rfl⟩ := exists_context_of_mem_ids present
  rw [LeavesNoLabel, isAlternative_plug_iff distinct] at unlabelled
  rw [Context.spliced_plug distinct] at stays ⊢
  have again := Context.spliced_plug stays second
  change (context.plug _).spliced node.id second = _ at again
  rw [again, Context.spliced_plug distinct]
  congr 1
  cases electable : context.isElectable with
  | false => simp [takeOver]
  | true =>
      rcases unlabelled with textless | labelled | noAlternative
      · simp [takeOver, textless]
      · simp [takeOver, Option.isNone_eq_false_iff.2 (Option.isSome_iff_ne_none.2 labelled)]
      · exact absurd electable noAlternative

/-- A node in its own place changes nothing. -/
theorem spliced_self
    {node : Tree}
    (distinct : root.ids.Nodup)
    (present : node ∈ root.walk) :
    root.spliced node.id node = root := by
  obtain ⟨context, rfl⟩ := exists_context_of_mem_walk present
  rw [Context.spliced_plug distinct]
  congr 1
  cases node
  simp [takeOver]

end Tree

/-! ## Replacements -/

namespace Session

variable {session : Session} {id : NodeId} {subtree : Tree}

/-- A replacement that takes effect leaves the spliced tree, and closes the menu. -/
theorem replace_of_took
    (valid : session.root.Grammatical)
    (distinct : session.root.ids.Nodup)
    (took : (session.replace id subtree).2 = true) :
    session.replace id subtree =
      ({ session with
          root := session.root.spliced id subtree, openNode := none, path := [] }, true) := by
  rcases session.replace_cases id subtree with refused | ⟨root, spliced, replaced⟩
  · rw [refused] at took
    cases took
  · obtain ⟨_, rfl, _⟩ := (Tree.splice?_eq_some_iff valid distinct subtree).1 spliced
    exact replaced

/-- A replacement takes effect exactly if the spliced tree is admissible. -/
theorem took_replace_iff
    (valid : session.root.Grammatical)
    (distinct : session.root.ids.Nodup) :
    (session.replace id subtree).2 = true ↔
      id ∈ session.root.ids ∧ (session.root.spliced id subtree).Grammatical ∧
        (session.root.spliced id subtree).ids.Nodup ∧
        (session.root.spliced id subtree).type = session.root.type := by
  constructor
  · intro took
    rcases session.replace_cases id subtree with refused | ⟨root, spliced, _⟩
    · rw [refused] at took
      cases took
    · obtain ⟨present, rfl, admissible⟩ :=
        (Tree.splice?_eq_some_iff valid distinct subtree).1 spliced
      exact ⟨present, admissible⟩
  · rintro ⟨present, admissible⟩
    have spliced : session.root.splice? id subtree = some (session.root.spliced id subtree) :=
      (Tree.splice?_eq_some_iff valid distinct subtree).2 ⟨present, rfl, admissible⟩
    rw [replace, spliced]

/-- How a session answers to a replacement, in terms of the spliced tree. -/
structure ReplacesBySplicing
    (session : Session)
    (id : NodeId)
    (subtree : Tree) : Prop where
  /-- It takes effect exactly if the identifier is in the tree and the spliced tree is valid,
  has distinct identifiers and has a root of the same type. -/
  took_iff :
    (session.replace id subtree).2 = true ↔
      id ∈ session.root.ids ∧ (session.root.spliced id subtree).validate = .ok () ∧
        (session.root.spliced id subtree).ids.Nodup ∧
        (session.root.spliced id subtree).type = session.root.type
  /-- The session then has the spliced tree and no open menu, and is otherwise the same. -/
  effect :
    (session.replace id subtree).2 = true ->
      (session.replace id subtree).1 =
        { session with
          root := session.root.spliced id subtree, openNode := none, path := [] }
  /-- Otherwise nothing changes. -/
  refused :
    (session.replace id subtree).2 = false -> (session.replace id subtree).1 = session
  /-- In the spliced tree the node has taken over the subtree, and everything around it is as
  it was. -/
  outside :
    ∀ node ∈ session.root.walk, node.id = id ->
      ∃ (context : Context) (text : Option String),
        session.root = context.plug node ∧
          session.root.spliced id subtree = context.plug { subtree with id, text } ∧
          (subtree.text = none -> session.root.IsAlternative id -> text = node.text) ∧
          (subtree.text ≠ none ∨ ¬ session.root.IsAlternative id -> text = subtree.text)

/-- A subtree is put in the place of a node exactly if the tree that comes out is admissible
as a whole. -/
theorem replacesBySplicing
    (valid : session.root.validate = .ok ())
    (distinct : session.root.ids.Nodup)
    (id : NodeId)
    (subtree : Tree) :
    session.ReplacesBySplicing id subtree := by
  have grammatical : session.root.Grammatical := (Tree.validate_eq_ok_iff _).1 valid
  refine ⟨?_, ?_, ?_, ?_⟩
  · rw [took_replace_iff grammatical distinct, Tree.validate_eq_ok_iff]
    rfl
  · intro took
    rw [replace_of_took grammatical distinct took]
  · exact replace_eq_of_refused
  · rintro node present rfl
    obtain ⟨context, whole⟩ := Tree.exists_context_of_mem_walk present
    rw [whole] at distinct ⊢
    refine ⟨context, _, rfl, Context.spliced_plug distinct subtree, ?_, ?_⟩
    · intro textless alternative
      simp [textless, (Tree.isAlternative_plug_iff distinct).1 alternative]
    · rw [Tree.isAlternative_plug_iff distinct]
      rintro (labelled | noAlternative)
      · simp [Option.isNone_eq_false_iff.2 (Option.isSome_iff_ne_none.2 labelled)]
      · simp [noAlternative]

/-- A second alternative that is still open keeps its label when a gift comes into its place. -/
theorem replacesBySplicing_alternative :
    let slot : Tree := (Tree.placeholder "exercise" .claim).withText "Exercise"
    let choice : Tree := .claim "choice" .or [.claim "expire" .zero [], slot]
    let gift : Tree := .claim "gift" .give [.placeholder "given" .claim]
    let catalogs : Catalogs := ⟨⟨.claim, []⟩, ⟨.observation, []⟩, ⟨.inequality, []⟩⟩
    let session : Session := { root := choice, catalogs, ids := { nameAt := fun _ => "expire" } }
    session.root.validate = .ok () ∧ session.root.ids.Nodup ∧
      session.ReplacesBySplicing "exercise" gift ∧
      (session.replace "exercise" gift).1.root =
        .claim "choice" .or
          [.claim "expire" .zero [],
            (Tree.claim "exercise" .give [.placeholder "given" .claim]).withText "Exercise"] := by
  intro slot choice gift catalogs session
  have valid : session.root.validate = .ok () := by
    rw [Tree.validate_eq_ok_iff]
    decide
  have distinct : session.root.ids.Nodup := by
    rw [Tree.ids_eq_map]
    decide
  have spliced : session.root.spliced "exercise" gift =
      .claim "choice" .or
        [.claim "expire" .zero [],
          (Tree.claim "exercise" .give [.placeholder "given" .claim]).withText "Exercise"] := by
    rfl
  have replaces := replacesBySplicing valid distinct "exercise" gift
  refine ⟨valid, distinct, replaces, ?_⟩
  rw [replaces.effect, ← spliced]
  rw [replaces.took_iff, spliced]
  refine ⟨?_, ?_, ?_, rfl⟩
  · rw [Tree.ids_eq_map]
    decide
  · rw [Tree.validate_eq_ok_iff]
    decide
  · rw [Tree.ids_eq_map]
    decide

/-! ## Repeated replacements -/

/-- What is left of a replacement once its node is replaced again. -/
structure Supersedes
    (session : Session)
    (id : NodeId)
    (first : Tree) : Prop where
  /-- A second subtree is taken exactly if it would have been taken at once, and the session
  is then the same. If it is not taken, the first stays. -/
  superseded :
    ∀ second, session.root.LeavesNoLabel id first second ->
      ((session.replace id first).1.replace id second).2 = (session.replace id second).2 ∧
        ((session.replace id second).2 = true ->
          ((session.replace id first).1.replace id second).1 = (session.replace id second).1) ∧
        ((session.replace id second).2 = false ->
          ((session.replace id first).1.replace id second).1 = (session.replace id first).1)
  /-- The subtree that stood there before restores the tree. -/
  restored :
    ∀ old ∈ session.root.walk, old.id = id -> session.root.LeavesNoLabel id first old ->
      ((session.replace id first).1.replace id old).2 = true ∧
        ((session.replace id first).1.replace id old).1.root = session.root

theorem took_replace_self
    {old : Tree}
    (valid : session.root.Grammatical)
    (distinct : session.root.ids.Nodup)
    (present : old ∈ session.root.walk) :
    (session.replace old.id old).2 = true := by
  rw [took_replace_iff valid distinct, Tree.spliced_self distinct present]
  exact ⟨(Tree.mem_ids_iff _ _).2 ⟨old, present, rfl⟩, valid, distinct, rfl⟩

/-- Of two replacements of a node the second counts, and a replacement is undone by putting
the old subtree back. -/
theorem replace_supersedes
    {first : Tree}
    (valid : session.root.validate = .ok ())
    (distinct : session.root.ids.Nodup)
    (took : (session.replace id first).2 = true) :
    session.Supersedes id first := by
  have grammatical : session.root.Grammatical := (Tree.validate_eq_ok_iff _).1 valid
  obtain ⟨present, laterValid, stays, typed⟩ := (took_replace_iff grammatical distinct).1 took
  have replaced := replace_of_took grammatical distinct took
  have answered (second : Tree) (unlabelled : session.root.LeavesNoLabel id first second) :
      ((session.replace id first).1.replace id second).2 = (session.replace id second).2 := by
    have same := Tree.spliced_spliced distinct stays present unlabelled
    rw [replaced, Bool.eq_iff_iff, took_replace_iff laterValid stays,
      took_replace_iff grammatical distinct]
    simp only [same, typed, Tree.mem_ids_spliced distinct present, present, true_and]
  have superseded (second : Tree) (unlabelled : session.root.LeavesNoLabel id first second)
      (tookSecond : (session.replace id second).2 = true) :
      ((session.replace id first).1.replace id second).1 = (session.replace id second).1 := by
    have same := Tree.spliced_spliced distinct stays present unlabelled
    have tookLater := (answered second unlabelled).trans tookSecond
    rw [replaced] at tookLater ⊢
    rw [replace_of_took laterValid stays tookLater, replace_of_took grammatical distinct tookSecond]
    simp only [same]
  refine ⟨?_, ?_⟩
  · intro second unlabelled
    refine ⟨answered second unlabelled, superseded second unlabelled, fun refused => ?_⟩
    exact replace_eq_of_refused ((answered second unlabelled).trans refused)
  · rintro old isOld rfl unlabelled
    have tookOld := took_replace_self grammatical distinct isOld
    refine ⟨(answered old unlabelled).trans tookOld, ?_⟩
    rw [superseded old unlabelled tookOld, replace_of_took grammatical distinct tookOld]
    exact Tree.spliced_self distinct isOld

/-- A labelled alternative is replaced by an option with the same identifiers as the subtree
that stood there. -/
theorem replace_supersedes_alternative :
    let old : Tree :=
      (Tree.claim "exercise" .give [.placeholder "given" .claim]).withText "Exercise"
    let choice : Tree := .claim "choice" .or [.claim "expire" .zero [], old]
    let option : Tree :=
      .claim "option" .anytime [.placeholder "window" .inequality, .placeholder "given" .claim]
    let catalogs : Catalogs := ⟨⟨.claim, []⟩, ⟨.observation, []⟩, ⟨.inequality, []⟩⟩
    let session : Session := { root := choice, catalogs, ids := { nameAt := fun _ => "expire" } }
    session.root.validate = .ok () ∧ session.root.ids.Nodup ∧
      (session.replace "exercise" option).2 = true ∧ session.Supersedes "exercise" option := by
  intro old choice option catalogs session
  have valid : session.root.validate = .ok () := by
    rw [Tree.validate_eq_ok_iff]
    decide
  have distinct : session.root.ids.Nodup := by
    rw [Tree.ids_eq_map]
    decide
  have took : (session.replace "exercise" option).2 = true := by
    rw [took_replace_iff ((Tree.validate_eq_ok_iff _).1 valid) distinct, Tree.ids_eq_map,
      Tree.ids_eq_map]
    unfold Tree.Grammatical
    decide
  exact ⟨valid, distinct, took, replace_supersedes valid distinct took⟩

end Session
end ContingentClaims
