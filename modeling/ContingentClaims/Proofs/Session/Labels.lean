import ContingentClaims.Proofs.Decoding.FirstFault
import ContingentClaims.Proofs.Session.Replacement
import ContingentClaims.Proofs.Session.Substitution

/-!
# Labels of alternatives

An alternative is known in two ways: in a tree by its parent and its position there, and in
a claim as the part that has a label. Both agree at every node of a tree that is read as a
claim (`Context.exists_leadsTo`). So a session puts labels exactly where the claim has them:
a label that is set is the label of one alternative and of no other part, and on a claim
that is no alternative any text is ignored (`labels_are_alternatives`).
-/

namespace ContingentClaims

/-! ## Labels in a term -/

namespace Part

/-- An alternative under another label. -/
def relabel?
    (label : String) : Part -> Option Part
  | electable alternative => some (electable (.mk label alternative.claim))
  | _ => none

/-- The label of a part that is an alternative. -/
def label? : Part -> Option String
  | electable alternative => some alternative.label
  | _ => none

/-- The label at the end of a path. -/
def labelAt?
    (whole : Part)
    (path : List Nat) : Option String :=
  (whole.at? path).bind label?

@[simp] theorem labelAt?_nil (whole : Part) : whole.labelAt? [] = whole.label? := rfl

theorem labelAt?_cons
    (whole : Part)
    (position : Nat)
    (path : List Nat) :
    whole.labelAt? (position :: path) =
      whole.drawn[position]?.bind fun operand => operand.labelAt? path := by
  cases found : whole.drawn[position]? with
  | none => simp [labelAt?, at?, found]
  | some operand => simp [labelAt?, at?, found]

/-- Only claims and alternatives have claims or alternatives among their operands. -/
theorem type_eq_claim_of_mem_drawn
    {part operand : Part}
    (present : operand ∈ part.drawn)
    (isClaim : operand.type = .claim) :
    part.type = .claim := by
  cases part with
  | claim term => rfl
  | electable alternative => rfl
  | observation term =>
      cases term with
      | add left right =>
          cases right <;>
          · simp only [drawn, Observation.operands, List.mem_cons, List.not_mem_nil,
              or_false] at present
            rcases present with rfl | rfl <;> simp [type] at isClaim
      | _ =>
          simp only [drawn, Observation.operands, List.mem_cons, List.not_mem_nil,
            or_false] at present
          rcases present with rfl | rfl <;> simp [type] at isClaim
  | inequality term =>
      cases term <;>
      · simp only [drawn, Inequality.operands, List.mem_cons, List.not_mem_nil,
          or_false] at present
        rcases present with rfl | rfl <;> simp [type] at isClaim
  | leaf content => simp [drawn] at present

/-- Operands that are all read as terms of one kind are the parts of these terms. -/
theorem eq_map_of_mapM
    {α : Type}
    {read : Part -> Option α}
    {part : α -> Part}
    {operands : List Part}
    {terms : List α}
    (inverse : ∀ operand term, read operand = some term -> operand = part term)
    (all : operands.mapM read = some terms) :
    operands = terms.map part := by
  induction operands generalizing terms with
  | nil =>
      obtain rfl := Option.some.inj all
      rfl
  | cons operand rest restHypothesis =>
      simp only [List.mapM_cons, Option.bind_eq_bind, Option.bind_eq_some_iff, Option.pure_def,
        Option.some.injEq] at all
      obtain ⟨first, readFirst, others, readOthers, rfl⟩ := all
      rw [List.map_cons, inverse operand first readFirst, restHypothesis readOthers]

theorem eq_claim_of_claim?
    (operand : Part)
    (term : Claim)
    (read : operand.claim? = some term) :
    operand = claim term := by
  cases operand <;> simp_all [claim?]

theorem eq_electable_of_electable?
    (operand : Part)
    (term : Electable)
    (read : operand.electable? = some term) :
    operand = electable term := by
  cases operand <;> simp_all [electable?]

/-- The operands over which a claim is drawn anew are those of the new claim. -/
theorem operands_of_redraw?
    {term changed : Claim}
    {operands : List Part}
    (redrawn : term.redraw? operands = some changed) :
    changed.operands = operands := by
  unfold Claim.redraw? at redrawn
  split at redrawn
  case h_4 =>
    obtain ⟨claims, read, built⟩ := Option.bind_eq_some_iff.1 redrawn
    rw [eq_map_of_mapM eq_claim_of_claim? read]
    rcases claims with _ | ⟨first, _ | ⟨second, others⟩⟩ <;> simp [Claim.all?] at built
    subst built
    rfl
  case h_5 =>
    obtain ⟨electables, read, built⟩ := Option.bind_eq_some_iff.1 redrawn
    rw [eq_map_of_mapM eq_electable_of_electable? read]
    rcases electables with _ | ⟨first, _ | ⟨second, others⟩⟩ <;> simp [Claim.anyOf?] at built
    subst built
    rfl
  all_goals cases redrawn <;> rfl

/-- A claim or an alternative that is drawn anew has the new operands and the old label. -/
theorem drawn_of_redraw?
    {part changed : Part}
    {operands : List Part}
    (isClaim : part.type = .claim)
    (redrawn : part.redraw? operands = some changed) :
    changed.type = .claim ∧ changed.drawn = operands ∧ changed.label? = part.label? := by
  cases part with
  | claim term =>
      obtain ⟨newTerm, termRedrawn, rfl⟩ := Option.map_eq_some_iff.1 redrawn
      exact ⟨rfl, operands_of_redraw? termRedrawn, rfl⟩
  | electable alternative =>
      obtain ⟨newTerm, termRedrawn, rfl⟩ := Option.map_eq_some_iff.1 redrawn
      exact ⟨rfl, operands_of_redraw? termRedrawn, rfl⟩
  | _ => simp [type] at isClaim

/-- A new label is found where it is set, and everywhere else the labels stay. -/
structure Relabels
    (whole : Part)
    (path : List Nat)
    (label : String)
    (changed : Part) : Prop where
  carries : changed.labelAt? path = some label
  keeps : ∀ other, other ≠ path -> changed.labelAt? other = whole.labelAt? other

/-- A path to an alternative leads through claims and alternatives only, so the part on the
way has the type of a claim. -/
theorem relabels_of_modifyAt?
    {whole changed : Part}
    {path : List Nat}
    {label : String}
    (made : whole.modifyAt? (·.relabel? label) path = some changed) :
    whole.type = .claim ∧ whole.Relabels path label changed := by
  induction path generalizing whole changed with
  | nil =>
      cases whole <;> simp only [modifyAt?, relabel?, reduceCtorEq, Option.some.injEq] at made
      subst made
      refine ⟨rfl, rfl, fun other different => ?_⟩
      rcases other with _ | ⟨position, path⟩
      · exact absurd rfl different
      · rw [labelAt?_cons, labelAt?_cons]
        rfl
  | cons position path pathHypothesis =>
      obtain ⟨operand, here, made⟩ := Option.bind_eq_some_iff.1 made
      obtain ⟨changedOperand, operandMade, redrawn⟩ := Option.bind_eq_some_iff.1 made
      obtain ⟨operandIsClaim, relabels⟩ := pathHypothesis operandMade
      have isClaim := type_eq_claim_of_mem_drawn (List.mem_of_getElem? here) operandIsClaim
      obtain ⟨_, drawn, sameLabel⟩ := drawn_of_redraw? isClaim redrawn
      obtain ⟨inside, _⟩ := List.getElem?_eq_some_iff.1 here
      refine ⟨isClaim, ?_, fun other different => ?_⟩
      · rw [labelAt?_cons, drawn, List.getElem?_set_self inside]
        exact relabels.carries
      · rcases other with _ | ⟨otherPosition, otherPath⟩
        · exact sameLabel
        · rw [labelAt?_cons, labelAt?_cons, drawn]
          by_cases same : otherPosition = position
          · subst same
            rw [List.getElem?_set_self inside, here]
            exact relabels.keeps otherPath fun samePath => different (by rw [samePath])
          · rw [List.getElem?_set_ne (Ne.symm same)]

/-- What is found at the end of a path is also what stands there. -/
theorem modifyAt?_some
    {whole part : Part}
    {path : List Nat}
    (found : whole.at? path = some part) :
    whole.modifyAt? some path = some whole := by
  induction path generalizing whole with
  | nil => rfl
  | cons position path pathHypothesis =>
      obtain ⟨operand, here, found⟩ := Option.bind_eq_some_iff.1 found
      have unchanged : whole.drawn.set position operand = whole.drawn := by
        obtain ⟨inside, rfl⟩ := List.getElem?_eq_some_iff.1 here
        exact List.set_getElem_self inside
      simp [modifyAt?, here, pathHypothesis found, unchanged, redraw?_drawn]

end Part

/-! ## Places of claims -/

namespace Tree

theorem Denotes.type
    {node : Tree}
    {part : Part}
    (denotes : node.Denotes part) :
    node.type = part.type := by
  cases part with
  | claim term => exact type_of_decodeClaim denotes
  | electable alternative => exact type_of_decodeClaim denotes.2
  | observation term => exact type_of_decodeObservation denotes
  | inequality term => exact type_of_decodeInequality denotes
  | leaf content => exact ((leaf_eq_ok_iff node content).1 denotes).1

/-- The children of a claim are read as the operands of the part that it denotes. -/
theorem Denotes.operands
    {node : Tree}
    {part : Part}
    (denotes : node.Denotes part)
    (isClaim : node.type = .claim) :
    node.tag = part.tag ∧ node.value = none ∧
      List.Forall₂ Denotes node.children part.drawn := by
  rw [denotes.type] at isClaim
  cases part with
  | claim term => exact operands_of_decodeClaim denotes
  | electable alternative => exact operands_of_decodeClaim denotes.2
  | _ => simp [Part.type] at isClaim

end Tree

namespace Context

/-- A claim or an alternative is drawn anew if its node gets other children. -/
theorem redraws_of_denotes
    {frame : Frame}
    {child : Tree}
    {parent : Part}
    (denotes : (frame.fill child).Denotes parent)
    (isClaim : frame.type = .claim) :
    Redraws frame parent := by
  intro other operands same read
  obtain ⟨sameTag, bare, _⟩ := denotes.operands isClaim
  have sameType : parent.type = .claim := denotes.type.symm.trans isClaim
  have filled : frame.fill other =
      ⟨frame.id, parent.tag, .claim, (frame.fill other).children, frame.text, none⟩ := by
    rw [← sameTag, ← isClaim, ← bare]
    rfl
  cases parent with
  | claim term =>
      obtain ⟨changed, redrawn, claimRead⟩ :=
        Tree.decodeClaim_redraw same read frame.id frame.text
      refine ⟨.claim changed, by simp [Part.redraw?, redrawn], .claim changed term, ?_⟩
      rw [filled]
      exact claimRead
  | electable alternative =>
      obtain ⟨changed, redrawn, claimRead⟩ :=
        Tree.decodeClaim_redraw same read frame.id frame.text
      refine ⟨.electable (.mk alternative.label changed), by simp [Part.redraw?, redrawn],
        .electable _ alternative, denotes.1, ?_⟩
      rw [filled]
      exact claimRead
  | _ => simp [Part.type] at sameType

/-- The parent of a claim is a claim. -/
theorem type_eq_claim_of_denotes
    {frame : Frame}
    {outer : Context}
    {node : Tree}
    {whole : Part}
    (denotes : (plug (frame :: outer) node).Denotes whole)
    (isClaim : node.type = .claim) :
    frame.type = .claim := by
  obtain ⟨grammatical, complete⟩ := denotes.passes
  have present := mem_preorder_plug outer (frame.fill node)
  have blameless : (frame.fill node).isFaulty = false := by
    rw [Tree.isFaulty_eq_false_iff, Tree.blame?_eq_none_iff]
    exact ⟨(Tree.isComplete_iff _).1 complete _ present, grammatical _ present⟩
  by_contra noClaim
  exact Tree.type_ne_claim_of_mem_children blameless noClaim (by simp) isClaim

/-- Every claim in a tree that is read has the place of the part as which it is read. -/
theorem exists_leadsTo
    {context : Context}
    {node : Tree}
    {whole : Part}
    (denotes : (context.plug node).Denotes whole)
    (unlabelled : whole.isElectable = false)
    (isClaim : node.type = .claim) :
    ∃ part, context.LeadsTo whole part ∧ node.Denotes part := by
  induction context generalizing node with
  | nil => exact ⟨whole, leadsTo_nil unlabelled, denotes⟩
  | cons frame outer outerHypothesis =>
      have parentIsClaim := type_eq_claim_of_denotes denotes isClaim
      obtain ⟨parent, leads, parentDenotes⟩ := outerHypothesis denotes parentIsClaim
      obtain ⟨sameTag, _, operands⟩ := parentDenotes.operands parentIsClaim
      rw [Frame.children_fill] at operands
      have front := List.forall₂_take frame.before.length operands
      have back := List.forall₂_drop frame.before.length operands
      rw [List.take_left] at front
      rw [List.drop_left] at back
      obtain ⟨part, behind, nodeDenotes, readBehind, split⟩ := List.forall₂_cons_left_iff.1 back
      have drawn : parent.drawn = parent.drawn.take frame.before.length ++ part :: behind := by
        rw [← split, List.take_append_drop]
      exact ⟨part, leads.child sameTag parentDenotes.type drawn front readBehind
        (redraws_of_denotes parentDenotes parentIsClaim), nodeDenotes⟩

end Context

/-! ## Labels in a tree -/

namespace Tree

theorem IsAlternative.mem_ids
    {root : Tree}
    {id : NodeId}
    (alternative : root.IsAlternative id) :
    id ∈ root.ids := by
  obtain ⟨_, _, child, _⟩ := alternative
  obtain ⟨frame, outer, node, rfl, rfl, _⟩ := child.exists_context
  rw [Context.ids_plug, ids_eq]
  simp

/-- A label is put exactly on an alternative that does not have it yet. -/
theorem isSome_relabel?_iff
    {root : Tree}
    (distinct : root.ids.Nodup)
    (id : NodeId)
    (label : String) :
    (root.relabel? id label).isSome = true ↔
      root.IsAlternative id ∧ ∀ node ∈ root.walk, node.id = id -> node.text ≠ some label := by
  by_cases present : id ∈ root.ids
  · obtain ⟨context, node, rfl, rfl⟩ := exists_context_of_mem_ids present
    have here : node ∈ (context.plug node).walk := by
      rw [walk_eq_preorder]
      exact context.mem_preorder_plug node
    have text_iff :
        (∀ other ∈ (context.plug node).walk, other.id = node.id -> other.text ≠ some label) ↔
          node.text ≠ some label := by
      constructor
      · intro unlike
        exact unlike node here rfl
      · intro unlike other otherHere same
        rw [eq_of_id_eq distinct otherHere here same]
        exact unlike
    rw [Context.relabel?_plug distinct, isAlternative_plug_iff distinct, text_iff]
    simp
  · have missing : root.relabel? id label = none := by
      rw [relabel?, find?_eq_none present]
    rw [missing]
    constructor
    · simp
    · rintro ⟨alternative, _⟩
      exact absurd alternative.mem_ids present

/-- Another text on a claim that is no alternative leaves what is read. -/
theorem decodeClaim_of_noAlternative
    {root node : Tree}
    {claim : Claim}
    (distinct : root.ids.Nodup)
    (read : root.decodeClaim = .ok claim)
    (present : node ∈ root.walk)
    (isClaim : node.type = .claim)
    (noAlternative : ¬ root.IsAlternative node.id)
    (text : Option String) :
    ∃ changed, root.update? node.id (·.setText text) = some changed ∧
      changed.decodeClaim = .ok claim := by
  obtain ⟨context, rfl⟩ := exists_context_of_mem_walk present
  refine ⟨_, Context.update?_plug_self (Context.distinct_parts distinct).1 _, ?_⟩
  rw [isAlternative_plug_iff distinct, Bool.not_eq_true] at noAlternative
  have denotes : (context.plug node).Denotes (.claim claim) := read
  obtain ⟨part, leads, nodeDenotes⟩ := Context.exists_leadsTo denotes rfl isClaim
  rw [leads.labelled] at noAlternative
  have sameType := nodeDenotes.type
  rw [isClaim] at sameType
  cases part with
  | claim term =>
      have textDenotes : (node.setText text).Denotes (.claim term) :=
        (node.decodeClaim_setText text).trans nodeDenotes
      obtain ⟨result, made, _, rootDenotes⟩ := leads.changes some _ (node.setText text) rfl
        (.refl _) textDenotes
      rw [Part.modifyAt?_some leads.found, Option.some.injEq] at made
      subst made
      exact rootDenotes
  | electable alternative => cases noAlternative
  | _ => simp [Part.type] at sameType

end Tree

/-! ## Sessions -/

/-- One alternative of a claim has another label, and nothing else is different. -/
structure Claim.Relabels
    (claim : Claim)
    (path : List Nat)
    (label : String)
    (changed : Claim) : Prop where
  /-- The path leads to an alternative. -/
  found : ∃ alternative, (Part.claim claim).at? path = some (.electable alternative)
  /-- The claim is put together anew around the alternative with the label. -/
  made : (Part.claim claim).modifyAt? (·.relabel? label) path = some (.claim changed)
  /-- The label is read there, and every other label is the old one. -/
  labels : (Part.claim claim).Relabels path label (.claim changed)

namespace Session

/-- The labels that a session accepts are those of the alternatives of its claim. -/
structure LabelsAlternatives
    (session : Session)
    (claim : Claim) : Prop where
  /-- A label is accepted exactly for an alternative that does not have it yet. -/
  took_iff :
    ∀ id label, (session.setLabel id label).2 = true ↔
      session.root.IsAlternative id ∧
        ∀ node ∈ session.root.walk, node.id = id -> node.text ≠ some label
  /-- Then what is submitted is the claim with the label on that one alternative. -/
  relabels :
    ∀ id label, (session.setLabel id label).2 = true ->
      ∃ node path changed, session.root.at? path = some node ∧ node.id = id ∧
        claim.Relabels path label changed ∧
        (session.setLabel id label).1.submit = .ok changed
  /-- On a claim that is no alternative any text is ignored. -/
  ignores :
    ∀ node ∈ session.root.walk, node.type = .claim ->
      ¬ session.root.IsAlternative node.id -> ∀ text : Option String,
        ∃ changed, session.root.update? node.id (·.setText text) = some changed ∧
          changed.decodeClaim = .ok claim

/-- A tree in which an alternative got a label is read as the claim with this label. -/
theorem relabels_of_relabel?
    {root changedRoot : Tree}
    {claim : Claim}
    {id : NodeId}
    {label : String}
    (distinct : root.ids.Nodup)
    (read : root.decodeClaim = .ok claim)
    (relabelled : root.relabel? id label = some changedRoot) :
    ∃ node path changed, root.at? path = some node ∧ node.id = id ∧
      claim.Relabels path label changed ∧ changedRoot.decodeClaim = .ok changed := by
  obtain ⟨context, node, rfl, rfl, electable, rfl⟩ :=
    Tree.exists_context_of_relabel? distinct relabelled
  have denotes : (context.plug node).Denotes (.claim claim) := read
  have isClaim : node.type = .claim := by
    by_contra noClaim
    rw [Context.isElectable_eq_false denotes.grammatical noClaim] at electable
    cases electable
  obtain ⟨part, leads, nodeDenotes⟩ := Context.exists_leadsTo denotes rfl isClaim
  rw [leads.labelled] at electable
  cases part with
  | electable alternative =>
      obtain ⟨result, made, same, rootDenotes⟩ := leads.changes (·.relabel? label) _
        (node.withText label) rfl (.electable _ alternative)
        (Tree.readsAs_withText nodeDenotes.2 label)
      obtain ⟨changed, rfl⟩ := same.exists_claim
      exact ⟨node, context.positions, changed, context.at?_plug node, rfl,
        ⟨⟨alternative, leads.found⟩, made, (Part.relabels_of_modifyAt? made).2⟩, rootDenotes⟩
  | _ => simp [Part.isElectable] at electable

/-- In a session whose tree is a claim without open slots, labels are accepted for the
alternatives of the claim and change nothing else; texts on other claims are ignored. -/
theorem labels_are_alternatives
    {session : Session}
    (unlocked : session.locked = false)
    (isClaim : session.root.type = .claim)
    (valid : session.root.validate = .ok ())
    (complete : session.root.isComplete = true)
    (distinct : session.root.ids.Nodup) :
    ∃ claim, session.submit = .ok claim ∧ session.LabelsAlternatives claim := by
  obtain ⟨claim, submitted⟩ :=
    (Tree.readsAsChecked_of_errorOf? (Tree.errorOf?_decodeClaim isClaim)).succeeds_iff.2
      ⟨valid, complete⟩
  refine ⟨claim, submitted, ?_, ?_, ?_⟩
  · intro id label
    rw [← Tree.isSome_relabel?_iff distinct, setLabel, unlocked]
    cases session.root.relabel? id label <;> simp
  · intro id label took
    rcases session.setLabel_cases id label with refused | ⟨root, _, relabelled, labelled⟩
    · rw [refused] at took
      cases took
    · rw [labelled]
      exact relabels_of_relabel? distinct submitted relabelled
  · intro node present nodeIsClaim noAlternative text
    exact Tree.decodeClaim_of_noAlternative distinct submitted present nodeIsClaim
      noAlternative text

/-- An obligation to let the holder choose, with one of the two alternatives labelled. -/
theorem labels_are_alternatives_choice :
    let exercise : Tree := (Tree.claim "exercise" .zero []).withText "Exercise"
    let choice : Tree := .claim "choice" .or [exercise, .claim "expire" .zero []]
    let catalogs : Catalogs := ⟨⟨.claim, []⟩, ⟨.observation, []⟩, ⟨.inequality, []⟩⟩
    let session : Session :=
      { root := .claim "give" .give [choice], catalogs, ids := { nameAt := fun _ => "fresh" } }
    session.locked = false ∧ session.root.type = .claim ∧ session.root.validate = .ok () ∧
      session.root.isComplete = true ∧ session.root.ids.Nodup ∧
      ∃ claim, session.submit = .ok claim ∧ session.LabelsAlternatives claim := by
  intro exercise choice catalogs session
  have valid : session.root.validate = .ok () := by
    rw [Tree.validate_eq_ok_iff]
    decide
  have complete : session.root.isComplete = true := by
    rw [Tree.isComplete_iff]
    decide
  have distinct : session.root.ids.Nodup := by
    rw [Tree.ids_eq_map]
    decide
  exact ⟨rfl, rfl, valid, complete, distinct,
    labels_are_alternatives rfl rfl valid complete distinct⟩

end Session
end ContingentClaims
