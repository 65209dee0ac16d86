import ContingentClaims.Proofs.Decoding.Agreement
import ContingentClaims.Proofs.Decoding.RoundTrip
import ContingentClaims.Proofs.Session.Splice
import ContingentClaims.Proofs.Session.Steps

/-!
# The invariant of a session

A session keeps its tree a valid claim tree with distinct identifiers and the same
root identifier. An edit is made at one place of the tree and only if the subtree
suits this place, so every operation preserves the invariant, whatever its arguments
and whatever the source of identifiers hands out. As a consequence nothing but an
open slot can keep a session from being submitted.
-/

namespace ContingentClaims

/-! ## Trees under edit -/

namespace Tree

/-- What a session maintains of its tree. -/
structure IsSound
    (rootId : NodeId)
    (root : Tree) : Prop where
  /-- No node has a defect. -/
  grammatical : root.Grammatical
  /-- The root keeps its identifier. -/
  named : root.id = rootId
  /-- The tree stands for a claim. -/
  typed : root.type = .claim
  /-- No identifier occurs twice. -/
  distinct : root.ids.Nodup

/-- A subtree that suits the place of a node has the type of the node. -/
theorem type_of_suits
    {context : Context}
    {node subtree : Tree}
    (valid : (context.plug node).Grammatical)
    (suitable : context.suits node subtree = true) :
    subtree.type = node.type := by
  cases context with
  | nil => simpa [Context.suits, Context.slot?] using suitable
  | cons frame outer =>
      obtain ⟨slot, found, accepted⟩ := Context.exists_slot?_of_grammatical valid
      rw [Context.suits, found] at suitable
      rw [Slot.type_of_accepts suitable, Slot.type_of_accepts accepted]

/-- The place of a node accepts what suits it. -/
theorem accepts_of_suits
    {context : Context}
    {node subtree : Tree}
    (suitable : context.suits node subtree = true)
    (slot : Slot)
    (found : context.slot? = some slot) :
    slot.accepts subtree = true := by
  rw [Context.suits, found] at suitable
  exact suitable

/-- A tree stays sound when a subtree is spliced in. -/
theorem IsSound.splice
    {rootId id : NodeId}
    {root subtree changed : Tree}
    (sound : root.IsSound rootId)
    (spliced : root.splice? id subtree = some changed) :
    changed.IsSound rootId := by
  obtain ⟨context, node, rfl, rfl, subtreeValid, suitable, stays, rfl⟩ :=
    exists_context_of_splice? sound.distinct spliced
  generalize keptText : (subtree.text.isNone && context.isElectable) = keepText at stays ⊢
  have sameType : (subtree.takeOver keepText node).type = node.type :=
    type_of_suits sound.grammatical suitable
  refine ⟨?_, ?_, ?_, stays⟩
  · refine Context.grammatical_plug sound.grammatical
      ((grammatical_takeOver_iff subtree keepText node).2 subtreeValid) ?_
    intro slot found
    rw [← accepts_of_suits suitable slot found]
    exact Slot.accepts_congr rfl rfl rfl
  · rw [← sound.named]
    exact Context.id_plug rfl
  · rw [← sound.typed]
    exact Context.type_plug sameType

/-- A tree stays sound when an alternative is renamed. -/
theorem IsSound.relabel
    {rootId id : NodeId}
    {root changed : Tree}
    {label : String}
    (sound : root.IsSound rootId)
    (relabelled : root.relabel? id label = some changed) :
    changed.IsSound rootId := by
  obtain ⟨context, node, rfl, rfl, _, rfl⟩ :=
    exists_context_of_relabel? sound.distinct relabelled
  refine ⟨?_, ?_, ?_, ?_⟩
  · exact Context.grammatical_plug_withText sound.grammatical label
  · rw [← sound.named]
    exact Context.id_plug rfl
  · rw [← sound.typed]
    exact Context.type_plug rfl
  · rw [Context.ids_plug, ids_withText, ← Context.ids_plug]
    exact sound.distinct

/-- A tree stays sound under every edit. -/
theorem IsSound.edit
    {rootId : NodeId}
    {root changed : Tree}
    (sound : root.IsSound rootId)
    (edited : root.EditsTo changed) :
    changed.IsSound rootId := by
  cases edited with
  | splice spliced => exact sound.splice spliced
  | relabel relabelled => exact sound.relabel relabelled

end Tree

/-! ## Steps and runs -/

namespace Session

/-- An operation keeps the tree sound. -/
theorem isSound_perform
    {session : Session}
    {rootId : NodeId}
    (sound : session.root.IsSound rootId)
    (operation : Operation) :
    (session.perform operation).1.root.IsSound rootId := by
  rcases session.eq_or_editsTo_perform operation with same | edited
  · rw [same]
    exact sound
  · exact sound.edit edited

/-- Operations keep the tree sound. -/
theorem isSound_performAll
    {session : Session}
    {rootId : NodeId}
    (sound : session.root.IsSound rootId)
    (operations : List Operation) :
    (session.performAll operations).root.IsSound rootId :=
  performAll_keeps (fun sound edited => sound.edit edited) sound operations

/-! ## Starting -/

/-- The sessions as they start: on a valid tree of a claim, blank, or on a term. The
catalogs and the source of identifiers are arbitrary, as long as the tree of the
start has distinct identifiers. -/
inductive IsStart : Session -> Prop
  | onTree
      (root : Tree)
      (catalogs : Catalogs)
      (ids : IdSource)
      (valid : root.validate = .ok ())
      (typed : root.type = .claim)
      (distinct : root.ids.Nodup) :
      IsStart { root, catalogs, ids }
  | blank
      (catalogs : Catalogs)
      (ids : IdSource) :
      IsStart (.blank catalogs ids)
  | ofClaim
      (claim : Claim)
      (catalogs : Catalogs)
      (ids : IdSource)
      (distinct : (Session.ofClaim claim catalogs ids).root.ids.Nodup) :
      IsStart (.ofClaim claim catalogs ids)

theorem ids_placeholder
    (id : NodeId)
    (type : NodeType) :
    (Tree.placeholder id type).ids = [id] := by
  rw [Tree.ids_eq]
  rfl

theorem grammatical_placeholder
    (id : NodeId)
    (type : NodeType) :
    (Tree.placeholder id type).Grammatical := by
  rw [Tree.grammatical_iff,
    Tree.defect?_eq_none_iff_of_placeholder (Tree.isPlaceholder_placeholder id type)]
  exact ⟨⟨rfl, rfl⟩, by simp [Tree.placeholder]⟩

/-- The tree of a term passes the grammar. -/
theorem grammatical_encode
    (claim : Claim)
    (ids : IdSource) :
    (claim.encode.run ids).1.Grammatical := by
  have read := decodeClaim_encode claim ids
  have agreement := Tree.readsAsChecked_of_errorOf?
    (Tree.errorOf?_decodeClaim (Tree.type_of_decodeClaim read))
  have valid := (agreement.succeeds_iff.1 ⟨claim, read⟩).1
  exact (Tree.validate_eq_ok_iff _).1 valid

/-- A session starts with a sound tree. -/
theorem IsStart.isSound
    {session : Session}
    (started : session.IsStart) :
    session.root.IsSound session.root.id := by
  cases started with
  | onTree root catalogs ids valid typed distinct =>
      exact ⟨(Tree.validate_eq_ok_iff root).1 valid, rfl, typed, distinct⟩
  | blank catalogs ids =>
      refine ⟨grammatical_placeholder _ _, rfl, rfl, ?_⟩
      exact (ids_placeholder ids.peek .claim) ▸ List.nodup_cons.2 ⟨by simp, List.nodup_nil⟩
  | ofClaim claim catalogs ids distinct =>
      exact ⟨grammatical_encode claim ids, rfl,
        Tree.type_of_decodeClaim (decodeClaim_encode claim ids), distinct⟩

/-! ## Submitting -/

/-- What a session guarantees at any time, given the identifier of the root that it
started with. -/
structure KeepsClaim
    (rootId : NodeId)
    (session : Session) : Prop where
  /-- The tree passes the grammar. -/
  valid : session.root.validate = .ok ()
  /-- The root keeps its identifier. -/
  named : session.root.id = rootId
  /-- The tree stands for a claim. -/
  typed : session.root.type = .claim
  /-- The tree is submitted exactly if no slot is open. -/
  submits_iff : (∃ claim, session.submit = .ok claim) ↔ session.root.isComplete = true
  /-- If a slot is open, the report names an open slot of the tree. -/
  reports_slot :
    session.root.isComplete = false ->
      ∃ node ∈ session.root.walk, node.isPlaceholder = true ∧
        session.submit = .error (.incomplete node.id node.tag)
  /-- No defect is ever reported. -/
  reports_no_defect : ∀ id tag defect, session.submit ≠ .error (.invalid id tag defect)

theorem keepsClaim_of_isSound
    {rootId : NodeId}
    {session : Session}
    (sound : session.root.IsSound rootId) :
    session.KeepsClaim rootId := by
  have agreement : session.root.ReadsAsChecked session.submit :=
    Tree.readsAsChecked_of_errorOf? (Tree.errorOf?_decodeClaim sound.typed)
  have valid : session.root.validate = .ok () :=
    (Tree.validate_eq_ok_iff session.root).2 sound.grammatical
  have reports_slot (incomplete : session.root.isComplete = false) :
      ∃ node ∈ session.root.walk, node.isPlaceholder = true ∧
        session.submit = .error (.incomplete node.id node.tag) := by
    obtain ⟨id, tag, reported⟩ := agreement.incomplete_of_valid valid incomplete
    obtain ⟨node, present, hole, rfl, rfl⟩ := agreement.names_slot id tag reported
    exact ⟨node, present, hole, reported⟩
  refine ⟨valid, sound.named, sound.typed, ?_, reports_slot, ?_⟩
  · rw [agreement.succeeds_iff]
    simp [valid]
  · intro id tag defect reported
    cases complete : session.root.isComplete with
    | true =>
        obtain ⟨claim, read⟩ := agreement.succeeds_iff.2 ⟨valid, complete⟩
        simp [reported] at read
    | false =>
        obtain ⟨node, _, _, reportedSlot⟩ := reports_slot complete
        simp [reported] at reportedSlot

/-- After any operations the tree of a session is a valid claim tree with the root
that it started with. It is submitted exactly if no slot is open; if one is, such a
slot is reported, and never a defect. -/
theorem keepsClaim_performAll
    {session : Session}
    (started : session.IsStart)
    (operations : List Operation) :
    (session.performAll operations).KeepsClaim session.root.id :=
  keepsClaim_of_isSound (isSound_performAll started.isSound operations)

/-- A choice with one open alternative, edited from a menu with one entry and with a
source that repeats an identifier of the tree. -/
theorem keepsClaim_performAll_choice :
    let choice : Tree :=
      .claim "choice" .or [.claim "expire" .zero [], .placeholder "exercise" .claim]
    let catalogs : Catalogs :=
      ⟨⟨.claim, [⟨"give", "Give", [], some Template.give⟩]⟩, ⟨.observation, []⟩,
        ⟨.inequality, []⟩⟩
    let session : Session := { root := choice, catalogs, ids := { nameAt := fun _ => "expire" } }
    session.IsStart ∧
      (session.performAll [.openMenu "exercise", .select "give",
        .setLabel "exercise" "Exercise", .replace "exercise" (.claim "zero" .zero [])]
        ).KeepsClaim "choice" := by
  intro choice catalogs session
  have started : session.IsStart := by
    refine .onTree choice catalogs _ ?_ rfl ?_
    · rw [Tree.validate_eq_ok_iff]
      decide
    · rw [Tree.ids_eq_map]
      decide
  exact ⟨started, keepsClaim_performAll started _⟩

end Session
end ContingentClaims
