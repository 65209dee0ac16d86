import ContingentClaims.Proofs.Decoding.Agreement
import ContingentClaims.Proofs.Decoding.Parts
import ContingentClaims.Proofs.Decoding.RoundTrip
import ContingentClaims.Proofs.Grammar.Exchange
import ContingentClaims.Proofs.Term.Substitution

/-!
# What a node is read as

A node *denotes* the part as which it is read. If the operands of a part are exchanged for
others of the same sorts, its node over nodes that denote the new operands denotes the
part that is drawn anew (`denotes_redraw`).
-/

namespace ContingentClaims
namespace Tree

/-- A node is read as a part. -/
def Denotes (node : Tree) : Part -> Prop
  | .claim term => node.decodeClaim = .ok term
  | .electable alternative => node.ReadsAs alternative
  | .observation term => node.decodeObservation = .ok term
  | .inequality term => node.decodeInequality = .ok term
  | .leaf content => node.leaf = .ok content

/-- The tree of a part is read as the part. -/
theorem Encodes.denotes
    {node : Tree}
    {part : Part}
    (encodes : node.Encodes part) :
    node.Denotes part := by
  obtain ⟨source, rfl⟩ := encodes
  cases part with
  | claim term => exact decodeClaim_encode term source
  | electable alternative => exact readsAs_encode alternative source
  | observation term => exact decodeObservation_encode term source
  | inequality term => exact decodeInequality_encode term source
  | leaf content => exact content.leaf_encode source

theorem denotes_of_encodes
    {nodes : List Tree}
    {parts : List Part}
    (encode : List.Forall₂ Encodes nodes parts) :
    List.Forall₂ Denotes nodes parts :=
  encode.imp fun _ _ encodes => encodes.denotes

/-! ## Operands of what is read -/

theorem operands_of_decodeClaim
    {node : Tree}
    {term : Claim}
    (nodeRead : node.decodeClaim = .ok term) :
    node.tag = term.tag.name ∧ node.value = none ∧
      List.Forall₂ Denotes node.children term.operands := by
  cases (decodeClaim_eq_ok_iff node term).1 nodeRead with
  | zero => exact ⟨rfl, rfl, .nil⟩
  | one read => exact ⟨rfl, rfl, .cons ((decodeAsset_eq_ok_iff _ _).1 read) .nil⟩
  | give read => exact ⟨rfl, rfl, .cons read .nil⟩
  | and firstRead secondRead othersRead =>
      have others := (decodeClaims_eq_ok_iff _ _).1 othersRead
      exact ⟨rfl, rfl, .cons firstRead (.cons secondRead (List.forall₂_map_right_iff.2 others))⟩
  | or firstReads secondReads othersRead =>
      have others := (decodeElectables_eq_ok_iff _ _).1 othersRead
      exact ⟨rfl, rfl, .cons firstReads (.cons secondReads (List.forall₂_map_right_iff.2 others))⟩
  | cond predicateRead successRead failureRead =>
      exact ⟨rfl, rfl, .cons predicateRead (.cons successRead (.cons failureRead .nil))⟩
  | scale factorRead read => exact ⟨rfl, rfl, .cons factorRead (.cons read .nil)⟩
  | whenHolds predicateRead read => exact ⟨rfl, rfl, .cons predicateRead (.cons read .nil)⟩
  | untilHolds predicateRead read => exact ⟨rfl, rfl, .cons predicateRead (.cons read .nil)⟩
  | anytime predicateRead reads => exact ⟨rfl, rfl, .cons predicateRead (.cons reads .nil)⟩

theorem operands_of_decodeInequality
    {node : Tree}
    {term : Inequality}
    (nodeRead : node.decodeInequality = .ok term) :
    node.tag = term.tag.name ∧ node.value = none ∧
      List.Forall₂ Denotes node.children term.operands := by
  cases (decodeInequality_eq_ok_iff node term).1 nodeRead with
  | timeGte read => exact ⟨rfl, rfl, .cons ((decodeDate_eq_ok_iff _ _).1 read) .nil⟩
  | timeLte read => exact ⟨rfl, rfl, .cons ((decodeDate_eq_ok_iff _ _).1 read) .nil⟩
  | lte leftRead rightRead => exact ⟨rfl, rfl, .cons leftRead (.cons rightRead .nil)⟩

/-! ## Nodes that are read pass the grammar -/

theorem grammatical_of_leaf
    {node : Tree}
    {leaf : Leaf}
    (read : node.leaf = .ok leaf) :
    node.Grammatical := by
  obtain ⟨typed, tagged, childless, carries⟩ := (leaf_eq_ok_iff node leaf).1 read
  have filled : node.isPlaceholder = false := by simp [isPlaceholder, typed, carries]
  rw [grammatical_iff, defect?_eq_none_iff_of_value typed filled, childless]
  exact ⟨⟨rfl, leaf, carries, tagged⟩, List.forall_mem_nil _⟩

theorem isComplete_of_leaf
    {node : Tree}
    {leaf : Leaf}
    (read : node.leaf = .ok leaf) :
    node.isComplete = true := by
  obtain ⟨typed, _, childless, carries⟩ := (leaf_eq_ok_iff node leaf).1 read
  rw [isComplete_iff, preorder_eq, childless]
  refine List.forall_mem_cons.2 ⟨?_, List.forall_mem_nil _⟩
  simp [isPlaceholder, typed, carries]

theorem ReadsAsChecked.passes
    {α : Type}
    {node : Tree}
    {result : Except TreeError α}
    {term : α}
    (agreement : node.ReadsAsChecked result)
    (read : result = .ok term) :
    node.Grammatical ∧ node.isComplete = true := by
  obtain ⟨valid, complete⟩ := agreement.succeeds_iff.1 ⟨term, read⟩
  exact ⟨(validate_eq_ok_iff node).1 valid, complete⟩

/-- What is read passes the grammar and has no open slot. -/
theorem Denotes.passes
    {node : Tree}
    {part : Part}
    (denotes : node.Denotes part) :
    node.Grammatical ∧ node.isComplete = true := by
  have claimPasses {term : Claim} (read : node.decodeClaim = .ok term) :
      node.Grammatical ∧ node.isComplete = true :=
    (readsAsChecked_of_errorOf? (errorOf?_decodeClaim (type_of_decodeClaim read))).passes read
  cases part with
  | claim term => exact claimPasses denotes
  | electable alternative => exact claimPasses denotes.2
  | observation term =>
      have typed := type_of_decodeObservation denotes
      exact (readsAsChecked_of_errorOf? (errorOf?_decodeObservation typed)).passes denotes
  | inequality term =>
      have typed := type_of_decodeInequality denotes
      exact (readsAsChecked_of_errorOf? (errorOf?_decodeInequality typed)).passes denotes
  | leaf content => exact ⟨grammatical_of_leaf denotes, isComplete_of_leaf denotes⟩

theorem Denotes.grammatical
    {node : Tree}
    {part : Part}
    (denotes : node.Denotes part) :
    node.Grammatical :=
  denotes.passes.1

/-! ## Other operands -/

section Redraw

variable {nodes : List Tree} {operands : List Part}

theorem decodeObservation_redraw
    {term : Observation}
    (same : List.Forall₂ Part.SameSort operands (Part.observation term).drawn)
    (read : List.Forall₂ Denotes nodes operands)
    (id : NodeId) :
    ∃ changed, term.redraw? operands = some changed ∧
      ((Part.observation term).node id nodes).decodeObservation = .ok changed := by
  cases term with
  | const value =>
      rcases same with _ | ⟨same, _ | _⟩
      obtain ⟨value, rfl⟩ := same.exists_decimal
      rcases read with _ | ⟨read, _ | _⟩
      exact ⟨_, rfl, decodeObservation_const_eq_ok ((decodeDecimal_eq_ok_iff _ _).2 read)⟩
  | observe key =>
      rcases same with _ | ⟨same, _ | _⟩
      obtain ⟨key, rfl⟩ := same.exists_key
      rcases read with _ | ⟨read, _ | _⟩
      exact ⟨_, rfl, decodeObservation_observe_eq_ok ((decodeKey_eq_ok_iff _ _).2 read)⟩
  | observeAt key date =>
      rcases same with _ | ⟨keySame, _ | ⟨dateSame, _ | _⟩⟩
      obtain ⟨key, rfl⟩ := keySame.exists_key
      obtain ⟨date, rfl⟩ := dateSame.exists_date
      rcases read with _ | ⟨keyRead, _ | ⟨dateRead, _ | _⟩⟩
      exact ⟨_, rfl, decodeObservation_observeAt_eq_ok ((decodeKey_eq_ok_iff _ _).2 keyRead)
        ((decodeDate_eq_ok_iff _ _).2 dateRead)⟩
  | neg operand =>
      rcases same with _ | ⟨same, _ | _⟩
      obtain ⟨operand, rfl⟩ := same.exists_observation
      rcases read with _ | ⟨read, _ | _⟩
      exact ⟨_, rfl, decodeObservation_neg_eq_ok read⟩
  | add left right =>
      cases right with
      | neg right =>
          rcases same with _ | ⟨leftSame, _ | ⟨rightSame, _ | _⟩⟩
          obtain ⟨left, rfl⟩ := leftSame.exists_observation
          obtain ⟨right, rfl⟩ := rightSame.exists_observation
          rcases read with _ | ⟨leftRead, _ | ⟨rightRead, _ | _⟩⟩
          exact ⟨_, rfl, decodeObservation_difference_eq_ok leftRead rightRead⟩
      | _ =>
          rcases same with _ | ⟨leftSame, _ | ⟨rightSame, _ | _⟩⟩
          obtain ⟨left, rfl⟩ := leftSame.exists_observation
          obtain ⟨right, rfl⟩ := rightSame.exists_observation
          rcases read with _ | ⟨leftRead, _ | ⟨rightRead, _ | _⟩⟩
          exact ⟨_, rfl, decodeObservation_add_eq_ok nofun leftRead rightRead⟩
  | mul left right =>
      rcases same with _ | ⟨leftSame, _ | ⟨rightSame, _ | _⟩⟩
      obtain ⟨left, rfl⟩ := leftSame.exists_observation
      obtain ⟨right, rfl⟩ := rightSame.exists_observation
      rcases read with _ | ⟨leftRead, _ | ⟨rightRead, _ | _⟩⟩
      exact ⟨_, rfl, decodeObservation_mul_eq_ok leftRead rightRead⟩
  | div left right =>
      rcases same with _ | ⟨leftSame, _ | ⟨rightSame, _ | _⟩⟩
      obtain ⟨left, rfl⟩ := leftSame.exists_observation
      obtain ⟨right, rfl⟩ := rightSame.exists_observation
      rcases read with _ | ⟨leftRead, _ | ⟨rightRead, _ | _⟩⟩
      exact ⟨_, rfl, decodeObservation_div_eq_ok leftRead rightRead⟩

theorem decodeInequality_redraw
    {term : Inequality}
    (same : List.Forall₂ Part.SameSort operands term.operands)
    (read : List.Forall₂ Denotes nodes operands)
    (id : NodeId) :
    ∃ changed, term.redraw? operands = some changed ∧
      ((Part.inequality term).node id nodes).decodeInequality = .ok changed := by
  cases term with
  | timeGte date =>
      rcases same with _ | ⟨same, _ | _⟩
      obtain ⟨date, rfl⟩ := same.exists_date
      rcases read with _ | ⟨read, _ | _⟩
      exact ⟨_, rfl, decodeInequality_timeGte_eq_ok ((decodeDate_eq_ok_iff _ _).2 read)⟩
  | timeLte date =>
      rcases same with _ | ⟨same, _ | _⟩
      obtain ⟨date, rfl⟩ := same.exists_date
      rcases read with _ | ⟨read, _ | _⟩
      exact ⟨_, rfl, decodeInequality_timeLte_eq_ok ((decodeDate_eq_ok_iff _ _).2 read)⟩
  | lte left right =>
      rcases same with _ | ⟨leftSame, _ | ⟨rightSame, _ | _⟩⟩
      obtain ⟨left, rfl⟩ := leftSame.exists_observation
      obtain ⟨right, rfl⟩ := rightSame.exists_observation
      rcases read with _ | ⟨leftRead, _ | ⟨rightRead, _ | _⟩⟩
      exact ⟨_, rfl, decodeInequality_lte_eq_ok leftRead rightRead⟩

theorem decodeClaims_of_denotes
    {claims : List Claim}
    (read : List.Forall₂ Denotes nodes (claims.map .claim)) :
    decodeClaims nodes = .ok claims := by
  rw [List.forall₂_map_right_iff] at read
  exact (decodeClaims_eq_ok_iff nodes claims).2 read

theorem decodeElectables_of_denotes
    {electables : List Electable}
    (read : List.Forall₂ Denotes nodes (electables.map .electable)) :
    decodeElectables nodes = .ok electables := by
  rw [List.forall₂_map_right_iff] at read
  exact (decodeElectables_eq_ok_iff nodes electables).2 read

/-- The text of a claim is no part of its reading. -/
theorem decodeClaim_redraw
    {term : Claim}
    (same : List.Forall₂ Part.SameSort operands term.operands)
    (read : List.Forall₂ Denotes nodes operands)
    (id : NodeId)
    (text : Option String) :
    ∃ changed, term.redraw? operands = some changed ∧
      decodeClaim ⟨id, term.tag.name, .claim, nodes, text, none⟩ = .ok changed := by
  cases term with
  | zero =>
      rcases same with _ | _
      rcases read with _ | _
      exact ⟨_, rfl, decodeClaim_zero⟩
  | one asset =>
      rcases same with _ | ⟨same, _ | _⟩
      obtain ⟨asset, rfl⟩ := same.exists_asset
      rcases read with _ | ⟨read, _ | _⟩
      exact ⟨_, rfl, decodeClaim_one_eq_ok ((decodeAsset_eq_ok_iff _ _).2 read)⟩
  | give claim =>
      rcases same with _ | ⟨same, _ | _⟩
      obtain ⟨claim, rfl⟩ := same.exists_claim
      rcases read with _ | ⟨read, _ | _⟩
      exact ⟨_, rfl, decodeClaim_give_eq_ok read⟩
  | and first second others =>
      rcases same with _ | ⟨firstSame, _ | ⟨secondSame, othersSame⟩⟩
      obtain ⟨first, rfl⟩ := firstSame.exists_claim
      obtain ⟨second, rfl⟩ := secondSame.exists_claim
      obtain ⟨others, rfl⟩ :=
        Part.exists_map_of_sameSort (fun _ _ same => same.exists_claim) othersSame
      rcases read with _ | ⟨firstRead, _ | ⟨secondRead, othersRead⟩⟩
      refine ⟨.and first second others, ?_,
        decodeClaim_and_eq_ok firstRead secondRead (decodeClaims_of_denotes othersRead)⟩
      exact Part.redraw?_operands (.and first second others)
  | or first second others =>
      rcases same with _ | ⟨firstSame, _ | ⟨secondSame, othersSame⟩⟩
      obtain ⟨first, rfl⟩ := firstSame.exists_electable
      obtain ⟨second, rfl⟩ := secondSame.exists_electable
      obtain ⟨others, rfl⟩ :=
        Part.exists_map_of_sameSort (fun _ _ same => same.exists_electable) othersSame
      rcases read with _ | ⟨firstReads, _ | ⟨secondReads, othersRead⟩⟩
      refine ⟨.or first second others, ?_,
        decodeClaim_or_eq_ok firstReads secondReads (decodeElectables_of_denotes othersRead)⟩
      exact Part.redraw?_operands (.or first second others)
  | cond predicate success failure =>
      rcases same with _ | ⟨predicateSame, _ | ⟨successSame, _ | ⟨failureSame, _ | _⟩⟩⟩
      obtain ⟨predicate, rfl⟩ := predicateSame.exists_inequality
      obtain ⟨success, rfl⟩ := successSame.exists_claim
      obtain ⟨failure, rfl⟩ := failureSame.exists_claim
      rcases read with _ | ⟨predicateRead, _ | ⟨successRead, _ | ⟨failureRead, _ | _⟩⟩⟩
      exact ⟨_, rfl, decodeClaim_cond_eq_ok predicateRead successRead failureRead⟩
  | scale factor claim =>
      rcases same with _ | ⟨factorSame, _ | ⟨claimSame, _ | _⟩⟩
      obtain ⟨factor, rfl⟩ := factorSame.exists_observation
      obtain ⟨claim, rfl⟩ := claimSame.exists_claim
      rcases read with _ | ⟨factorRead, _ | ⟨claimRead, _ | _⟩⟩
      exact ⟨_, rfl, decodeClaim_scale_eq_ok factorRead claimRead⟩
  | whenHolds predicate claim =>
      rcases same with _ | ⟨predicateSame, _ | ⟨claimSame, _ | _⟩⟩
      obtain ⟨predicate, rfl⟩ := predicateSame.exists_inequality
      obtain ⟨claim, rfl⟩ := claimSame.exists_claim
      rcases read with _ | ⟨predicateRead, _ | ⟨claimRead, _ | _⟩⟩
      exact ⟨_, rfl, decodeClaim_whenHolds_eq_ok predicateRead claimRead⟩
  | untilHolds predicate claim =>
      rcases same with _ | ⟨predicateSame, _ | ⟨claimSame, _ | _⟩⟩
      obtain ⟨predicate, rfl⟩ := predicateSame.exists_inequality
      obtain ⟨claim, rfl⟩ := claimSame.exists_claim
      rcases read with _ | ⟨predicateRead, _ | ⟨claimRead, _ | _⟩⟩
      exact ⟨_, rfl, decodeClaim_untilHolds_eq_ok predicateRead claimRead⟩
  | anytime predicate electable =>
      rcases same with _ | ⟨predicateSame, _ | ⟨electableSame, _ | _⟩⟩
      obtain ⟨predicate, rfl⟩ := predicateSame.exists_inequality
      obtain ⟨electable, rfl⟩ := electableSame.exists_electable
      rcases read with _ | ⟨predicateRead, _ | ⟨reads, _ | _⟩⟩
      exact ⟨_, rfl, decodeClaim_anytime_eq_ok predicateRead reads⟩

/-- Over other operands of the same sorts there is a part of the same constructor, and
the node of the old part over nodes that denote the new operands denotes it. -/
theorem denotes_redraw
    {part : Part}
    (same : List.Forall₂ Part.SameSort operands part.drawn)
    (read : List.Forall₂ Denotes nodes operands)
    (id : NodeId) :
    ∃ changed, part.redraw? operands = some changed ∧ changed.SameSort part ∧
      (part.node id nodes).Denotes changed := by
  cases part with
  | claim term =>
      obtain ⟨changed, redrawn, claimRead⟩ := decodeClaim_redraw same read id none
      exact ⟨.claim changed, by simp [Part.redraw?, redrawn], .claim changed term, claimRead⟩
  | electable alternative =>
      obtain ⟨changed, redrawn, claimRead⟩ :=
        decodeClaim_redraw same read id (some alternative.label)
      exact ⟨.electable (.mk alternative.label changed), by simp [Part.redraw?, redrawn],
        .electable _ alternative, rfl, claimRead⟩
  | observation term =>
      obtain ⟨changed, redrawn, observationRead⟩ := decodeObservation_redraw same read id
      exact ⟨.observation changed, by simp [Part.redraw?, redrawn],
        .observation changed term, observationRead⟩
  | inequality term =>
      obtain ⟨changed, redrawn, inequalityRead⟩ := decodeInequality_redraw same read id
      exact ⟨.inequality changed, by simp [Part.redraw?, redrawn],
        .inequality changed term, inequalityRead⟩
  | leaf content =>
      rcases same with _ | _
      rcases read with _ | _
      exact ⟨.leaf content, rfl, .refl _, (leaf_eq_ok_iff _ content).2 ⟨rfl, rfl, rfl, rfl⟩⟩

end Redraw

/-- The node of a part over nodes that denote its operands denotes the part, whatever its
identifier. -/
theorem denotes_node
    {part : Part}
    {nodes : List Tree}
    (read : List.Forall₂ Denotes nodes part.drawn)
    (id : NodeId) :
    (part.node id nodes).Denotes part := by
  have own : List.Forall₂ Part.SameSort part.drawn part.drawn :=
    List.forall₂_same.2 fun operand _ => .refl operand
  obtain ⟨changed, redrawn, _, denotes⟩ := denotes_redraw own read id
  rw [Part.redraw?_drawn, Option.some.injEq] at redrawn
  subst redrawn
  exact denotes

end Tree
end ContingentClaims
