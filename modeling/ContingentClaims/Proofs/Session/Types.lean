import ContingentClaims.Proofs.Session.Repetition

/-!
# Types under edit

A valid tree stays valid in a session even if identifiers are repeated in it. A node that
is overwritten keeps its type as well, with one exception: the slot that a subtree must fit
is looked up below the root, so if a node there has the identifier of the root, the root
is overwritten with what fits the slot of that node (`Tree.KeepsType`).
-/

namespace ContingentClaims

namespace Tree

/-- How the overwriting of a node treats its type. -/
structure KeepsType
    (id : NodeId)
    (root changed : Tree) : Prop where
  /-- The node keeps its type, unless it is the root and its identifier is repeated. -/
  kept : (id = root.id -> id ∉ root.idsBelow) ->
    (changed.find? id).map (·.type) = (root.find? id).map (·.type)
  /-- A root whose identifier is repeated takes the type of the first node below it that
  has the identifier. -/
  shadowed : id = root.id -> id ∈ root.idsBelow ->
    some changed.type = (findIn? id root.children).map (·.type)

/-! ## The slot that is looked up -/

/-- The slot of an identifier is that of the first node below the root with it. -/
theorem exists_frame_of_findIn?
    {target : NodeId}
    {root found : Tree}
    (here : findIn? target root.children = some found) :
    ∃ (frame : Frame) (outer : Context),
      root = Context.plug (frame :: outer) found ∧ root.slotOf? target = frame.slot? := by
  obtain ⟨before, child, behind, split, skipped, below⟩ := exists_split_of_findIn? here
  have notBefore : target ∉ idsOfAll before := by
    rw [not_mem_idsOfAll_iff]
    intro other isBefore
    exact not_mem_ids_of_find?_eq_none (skipped other isBefore)
  have parent : root.parentOf? target =
      if child.id = target then some (root, before.length)
      else (child.parentOf? target).or
        (parentAmong? target root (before.length + 1) behind) := by
    rw [parentOf?_eq, split, parentAmong?_append notBefore, Nat.zero_add, parentAmong?_cons]
  obtain ⟨inner, rfl, rfl, absent⟩ := exists_context_of_find? below
  cases inner with
  | nil =>
      refine ⟨Frame.around root before behind, [], (Frame.fill_around split).symm, ?_⟩
      rw [slotOf?, parent, Context.plug_nil, if_pos rfl]
      rfl
  | cons frame inner =>
      have different : (Context.plug (frame :: inner) found).id ≠ found.id := by
        intro same
        apply absent
        rw [← same]
        exact Context.id_plug_mem_idsBefore frame inner found
      refine ⟨frame, inner ++ [Frame.around root before behind], ?_, ?_⟩
      · rw [← List.cons_append, Context.plug_append]
        exact (Frame.fill_around split).symm
      · rw [slotOf?, parent, if_neg different, Context.parentOf?_plug absent, Option.some_or]
        rfl

theorem slotOf?_eq_none
    {target : NodeId}
    {root : Tree}
    (absent : target ∉ root.idsBelow) :
    root.slotOf? target = none := by
  rw [idsBelow_eq] at absent
  rw [slotOf?, parentOf?_eq_none absent]
  rfl

/-- A subtree that fits has the type of the first node below the root with the identifier,
or of the node itself if there is none. -/
theorem type_of_fitsAt
    {root target subtree : Tree}
    (valid : root.Grammatical)
    (fits : root.fitsAt target subtree = true) :
    some subtree.type =
      ((findIn? target.id root.children).map (·.type)).or (some target.type) := by
  cases below : findIn? target.id root.children with
  | none =>
      have absent : target.id ∉ root.idsBelow := by
        rw [idsBelow_eq]
        exact not_mem_idsOfAll_of_findIn?_eq_none below
      rw [fitsAt, slotOf?_eq_none absent] at fits
      simpa using fits
  | some holder =>
      obtain ⟨frame, outer, rfl, slot⟩ := exists_frame_of_findIn? below
      obtain ⟨here, found, accepted⟩ := Context.exists_slot?_of_grammatical valid
      have known : frame.slot? = some here := found
      rw [fitsAt, slot, known] at fits
      simp [Slot.type_of_accepts fits, Slot.type_of_accepts accepted]

/-! ## Edits of a tree -/

variable {root subtree changed : Tree} {id : NodeId}

/-- A valid tree stays valid when a subtree is spliced in. -/
theorem Grammatical.splice
    (valid : root.Grammatical)
    (spliced : root.splice? id subtree = some changed) :
    changed.Grammatical := by
  obtain ⟨context, node, keepText, rfl, rfl, notBefore, subtreeValid, fits, _, rfl⟩ :=
    exists_place_of_splice? spliced
  have takenValid := (grammatical_takeOver_iff subtree keepText node).2 subtreeValid
  apply Context.grammatical_plug valid takenValid
  intro slot found
  cases context with
  | nil => simp [Context.slot?] at found
  | cons frame outer =>
      -- Below the root the parent that is looked up is the parent of the node.
      have lookedUp : (Context.plug (frame :: outer) node).slotOf? node.id = frame.slot? := by
        rw [slotOf?, Context.parentOf?_plug notBefore]
        rfl
      have known : frame.slot? = some slot := found
      rw [fitsAt, lookedUp, known] at fits
      rw [← fits]
      exact Slot.accepts_congr rfl rfl rfl

/-- A valid tree stays valid when a label is changed. -/
theorem Grammatical.relabel
    {label : String}
    (valid : root.Grammatical)
    (relabelled : root.relabel? id label = some changed) :
    changed.Grammatical := by
  obtain ⟨context, node, rfl, rfl, _, rfl⟩ := exists_place_of_relabel? relabelled
  exact Context.grammatical_plug_withText valid label

theorem id_splice
    (spliced : root.splice? id subtree = some changed) :
    changed.id = root.id := by
  obtain ⟨context, node, keepText, rfl, _, _, _, _, _, rfl⟩ := exists_place_of_splice? spliced
  exact Context.id_plug rfl

/-- The node that is overwritten has the type of the subtree. -/
theorem type_find?_splice
    (spliced : root.splice? id subtree = some changed) :
    (changed.find? id).map (·.type) = some subtree.type := by
  obtain ⟨context, node, keepText, rfl, rfl, notBefore, _, _, _, rfl⟩ :=
    exists_place_of_splice? spliced
  have takenNotBefore : (subtree.takeOver keepText node).id ∉ context.idsBefore := notBefore
  have found : (context.plug (subtree.takeOver keepText node)).find? node.id =
      some (subtree.takeOver keepText node) :=
    Context.find?_plug_self takenNotBefore
  rw [found]
  rfl

/-- The type of the root changes only if the root itself is overwritten. -/
theorem type_splice
    (spliced : root.splice? id subtree = some changed) :
    changed.type = if id = root.id then subtree.type else root.type := by
  obtain ⟨context, node, keepText, rfl, rfl, notBefore, _, _, _, rfl⟩ :=
    exists_place_of_splice? spliced
  cases context with
  | nil => simp [takeOver]
  | cons frame outer =>
      have different : node.id ≠ (Context.plug (frame :: outer) node).id := by
        intro same
        apply notBefore
        rw [same]
        exact Context.id_plug_mem_idsBefore frame outer node
      have sameParent : (frame.fill (subtree.takeOver keepText node)).type =
          (frame.fill node).type := rfl
      rw [if_neg different, Context.plug_cons, Context.plug_cons]
      exact Context.type_plug sameParent

/-- A subtree that is spliced into a valid tree has the type of the first node below the
root with the identifier, or of the first node at all if there is none below. -/
theorem type_of_splice?
    (valid : root.Grammatical)
    (spliced : root.splice? id subtree = some changed) :
    some subtree.type =
      ((findIn? id root.children).map (·.type)).or ((root.find? id).map (·.type)) := by
  obtain ⟨context, node, keepText, rfl, rfl, notBefore, _, fits, _, rfl⟩ :=
    exists_place_of_splice? spliced
  rw [type_of_fitsAt valid fits, Context.find?_plug_self notBefore]
  rfl

/-- What a splice into a valid tree does to the type of the node that it overwrites. -/
theorem keepsType_splice
    (valid : root.Grammatical)
    (spliced : root.splice? id subtree = some changed) :
    root.KeepsType id changed := by
  have typed := type_of_splice? valid spliced
  constructor
  · intro single
    rw [type_find?_splice spliced, typed, find?_eq]
    split
    next here =>
      rw [idsBelow_eq] at single
      rw [findIn?_eq_none (single here.symm)]
      rfl
    next elsewhere => exact Option.or_self
  · intro here repeated
    rw [type_splice spliced, if_pos here, typed]
    cases below : findIn? id root.children with
    | none =>
        rw [idsBelow_eq] at repeated
        exact absurd repeated (not_mem_idsOfAll_of_findIn?_eq_none below)
    | some holder => rfl

/-- The root keeps its type if its identifier is not repeated. -/
theorem type_splice_of_single
    (valid : root.Grammatical)
    (single : root.id ∉ root.idsBelow)
    (spliced : root.splice? id subtree = some changed) :
    changed.type = root.type := by
  rw [type_splice spliced]
  split
  next here =>
    subst here
    have typed := type_of_splice? valid spliced
    rw [idsBelow_eq] at single
    rw [findIn?_eq_none single, find?_eq, if_pos rfl] at typed
    exact Option.some.inj typed
  next elsewhere => rfl

/-- A valid tree stays valid under every edit. -/
theorem Grammatical.edit
    (valid : root.Grammatical)
    (edited : root.EditsTo changed) :
    changed.Grammatical := by
  cases edited with
  | splice spliced => exact valid.splice spliced
  | relabel relabelled => exact valid.relabel relabelled

theorem id_edit (edited : root.EditsTo changed) : changed.id = root.id := by
  cases edited with
  | splice spliced => exact id_splice spliced
  | relabel relabelled =>
      obtain ⟨context, node, rfl, _, _, rfl⟩ := exists_place_of_relabel? relabelled
      exact Context.id_plug rfl

/-- No edit repeats the identifier of the root. -/
theorem single_edit
    (single : root.id ∉ root.idsBelow)
    (edited : root.EditsTo changed) :
    changed.id ∉ changed.idsBelow := by
  have bounded := count_ids_edit_le edited root.id
  rw [ids_eq_cons_idsBelow changed, ids_eq_cons_idsBelow root, id_edit edited,
    List.count_cons_self, List.count_cons_self, List.count_eq_zero.2 single] at bounded
  rw [id_edit edited, ← List.count_eq_zero]
  omega

/-- The root keeps its type as long as its identifier is not repeated. -/
theorem type_edit
    (valid : root.Grammatical)
    (single : root.id ∉ root.idsBelow)
    (edited : root.EditsTo changed) :
    changed.type = root.type := by
  cases edited with
  | splice spliced => exact type_splice_of_single valid single spliced
  | relabel relabelled =>
      obtain ⟨context, node, rfl, _, _, rfl⟩ := exists_place_of_relabel? relabelled
      exact Context.type_plug rfl

end Tree

/-! ## Operations -/

namespace Session

/-- The node that an operation overwrites, if it is one that overwrites a node. -/
def overwritten?
    (session : Session) : Operation -> Option NodeId
  | .replace id _ => some id
  | .select _ => session.openNode
  | .setLeaf id _ _ => some id
  | _ => none

theorem splice?_of_replace
    {session : Session}
    {id : NodeId}
    {subtree : Tree}
    (took : (session.replace id subtree).2 = true) :
    session.root.splice? id subtree = some (session.replace id subtree).1.root := by
  rcases session.replace_cases id subtree with refused | ⟨root, spliced, replaced⟩
  · rw [refused] at took
    cases took
  · rw [replaced]
    exact spliced

theorem exists_splice?_of_setLeaf
    {session later : Session}
    {id : NodeId}
    {kind : LeafKind}
    {literal : String}
    (answered : session.setLeaf id kind literal = (later, .ok true)) :
    ∃ subtree, session.root.splice? id subtree = some later.root := by
  rcases session.setLeaf_cases id kind literal with
    ⟨answer, failed, refused⟩ | ⟨target, leaf, _, _, _, _, rfl, typed⟩
  · rw [refused] at answered
    exact absurd (congrArg Prod.snd answered) failed
  · rw [typed] at answered
    obtain ⟨rfl, took⟩ := Prod.mk.inj answered
    exact ⟨_, splice?_of_replace (Except.ok.inj took)⟩

/-- An operation that overwrites a node splices a subtree in, if it has an effect. -/
theorem exists_splice?_of_effect
    {session : Session}
    {operation : Operation}
    {id : NodeId}
    (overwrites : session.overwritten? operation = some id)
    (took : (session.perform operation).2 = .effect true) :
    ∃ subtree, session.root.splice? id subtree = some (session.perform operation).1.root := by
  cases operation with
  | replace target subtree =>
      obtain rfl := Option.some.inj overwrites
      exact ⟨subtree, splice?_of_replace (Answer.effect.inj took)⟩
  | select entry =>
      have opened : session.openNode = some id := overwrites
      have chosen : (session.select entry).2 = true := Answer.effect.inj took
      change ∃ subtree, session.root.splice? id subtree = some (session.select entry).1.root
      rcases session.select_cases entry with
        refused | ⟨target, _, _, template, isOpen, _, _, _, selected⟩
      · rw [refused] at chosen
        cases chosen
      · obtain rfl := Option.some.inj (opened.symm.trans isOpen)
        rw [selected] at chosen ⊢
        exact ⟨_, splice?_of_replace chosen⟩
  | setLeaf target kind literal =>
      obtain rfl := Option.some.inj overwrites
      rw [perform_setLeaf]
      simp only [perform] at took
      split at took
      next later effect answer =>
        obtain rfl := Answer.effect.inj took
        rw [answer]
        exact exists_splice?_of_setLeaf answer
      next later error answer => cases took
  | _ => simp [overwritten?] at overwrites

/-- A session with a valid tree, and how its operations treat the types of the nodes that
they overwrite. -/
structure KeepsTypes (session : Session) : Prop where
  /-- The tree passes the grammar. -/
  valid : session.root.validate = .ok ()
  /-- A node that is overwritten keeps its type, unless it is a root with a repeated
  identifier. -/
  overwrites : ∀ operation id, session.overwritten? operation = some id ->
    (session.perform operation).2 = .effect true ->
      session.root.KeepsType id (session.perform operation).1.root

/-! ## Runs -/

theorem grammatical_performAll
    {session : Session}
    (valid : session.root.Grammatical)
    (operations : List Operation) :
    (session.performAll operations).root.Grammatical :=
  performAll_keeps (fun valid edited => valid.edit edited) valid operations

theorem type_performAll
    {session : Session}
    (valid : session.root.Grammatical)
    (single : session.root.id ∉ session.root.idsBelow)
    (operations : List Operation) :
    (session.performAll operations).root.type = session.root.type := by
  have keeps {root changed : Tree}
      (kept : root.Grammatical ∧ root.id ∉ root.idsBelow ∧ root.type = session.root.type)
      (edited : root.EditsTo changed) :
      changed.Grammatical ∧ changed.id ∉ changed.idsBelow ∧
        changed.type = session.root.type := by
    obtain ⟨valid, single, sameType⟩ := kept
    exact ⟨valid.edit edited, Tree.single_edit single edited,
      (Tree.type_edit valid single edited).trans sameType⟩
  exact (performAll_keeps keeps ⟨valid, single, rfl⟩ operations).2.2

/-- However often identifiers are repeated, every tree that is reached from a valid one is
valid, and every node that is overwritten keeps its type, but for a root with a repeated
identifier. If the identifier of the root is not repeated at the start, the root never
changes its type. -/
theorem keepsTypes_performAll
    {session : Session}
    (valid : session.root.validate = .ok ())
    (operations : List Operation) :
    (session.performAll operations).KeepsTypes ∧
      (session.root.id ∉ session.root.idsBelow ->
        (session.performAll operations).root.type = session.root.type) := by
  have startValid : session.root.Grammatical := (Tree.validate_eq_ok_iff _).1 valid
  have laterValid := grammatical_performAll startValid operations
  refine ⟨⟨(Tree.validate_eq_ok_iff _).2 laterValid, ?_⟩, ?_⟩
  · intro operation id overwrites took
    obtain ⟨subtree, spliced⟩ := exists_splice?_of_effect overwrites took
    exact Tree.keepsType_splice laterValid spliced
  · intro single
    exact type_performAll startValid single operations

/-- Two slots with one identifier, one for an observation and one for a claim. A claim is
refused, since the first of them is found, and then an observation is taken. -/
theorem keepsTypes_performAll_twins :
    let catalogs : Catalogs := ⟨⟨.claim, []⟩, ⟨.observation, []⟩, ⟨.inequality, []⟩⟩
    let root : Tree :=
      .claim "scale" .scale [.placeholder "slot" .observation, .placeholder "slot" .claim]
    let session : Session := { root, catalogs, ids := { nameAt := fun _ => "slot" } }
    let operations : List Operation :=
      [.replace "slot" (.claim "zero" .zero []),
        .replace "slot" (.observation "minus" .neg [.placeholder "operand" .observation])]
    session.root.validate = .ok () ∧ session.root.id ∉ session.root.idsBelow ∧
      (session.performAll operations).KeepsTypes ∧
      (session.performAll operations).root.type = .claim := by
  intro catalogs root session operations
  have valid : session.root.validate = .ok () := by
    rw [Tree.validate_eq_ok_iff]
    decide
  have single : session.root.id ∉ session.root.idsBelow := by
    have below : session.root.idsBelow = ["slot", "slot"] := by cbv
    rw [below]
    decide
  have kept := keepsTypes_performAll valid operations
  exact ⟨valid, single, kept.1, kept.2 single⟩

/-- A root that shares its identifier with the observation below it is overwritten by an
observation. -/
theorem type_replace_repeated_root :
    let catalogs : Catalogs := ⟨⟨.claim, []⟩, ⟨.observation, []⟩, ⟨.inequality, []⟩⟩
    let root : Tree :=
      .claim "twin" .scale [.placeholder "twin" .observation, .claim "zero" .zero []]
    let session : Session := { root, catalogs, ids := { nameAt := fun _ => "n0" } }
    let later := session.perform (.replace "twin" (.placeholder "x" .observation))
    session.root.validate = .ok () ∧ session.root.type = .claim ∧
      later.2 = .effect true ∧ later.1.root.type = .observation := by
  intro catalogs root session later
  have named : root.id = "twin" := rfl
  have found : root.find? "twin" = some root := by rw [Tree.find?_eq, if_pos named]
  have admitted : (Tree.placeholder "x" .observation).isValid = true := by
    rw [Tree.isValid_iff, Tree.Grammatical]
    decide
  have fits : root.fitsAt root (.placeholder "x" .observation) = true := by cbv
  have noClash : root.clash? root (.placeholder "x" .observation) = none := by cbv
  have spliced : session.root.splice? "twin" (.placeholder "x" .observation) =
      some (.placeholder "twin" .observation) := by
    simp only [Tree.splice?, session, found, admitted, fits, noClash,
      Option.isNone_none, Bool.and_self, if_true]
    rw [Tree.update?_eq, if_pos named]
    rfl
  have later_eq : later =
      ({ session with root := .placeholder "twin" .observation }, .effect true) := by
    simp [later, perform, Session.replace, spliced, closeMenu, session]
  refine ⟨?_, rfl, ?_, ?_⟩
  · rw [Tree.validate_eq_ok_iff]
    decide
  · rw [later_eq]
  · rw [later_eq]
    rfl

end Session
end ContingentClaims
