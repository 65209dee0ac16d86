import ContingentClaims.Proofs.Grammar.Operands

/-!
# Equations of the decoder

How a node that passes the grammar is read, one equation for each tag: the term is
made from the readings of the operands. Whether the node passes is the hypothesis
`fits`, and what remains of the decoder behind it has no case for a tag or a number
of operands that the grammar does not know.
-/

namespace ContingentClaims
namespace Tree

theorem prepare_claimTag
    {tag : ClaimTag}
    {children : List Tree}
    (fits : tag.signature.Fits children)
    (id : NodeId)
    (text : Option String) :
    (⟨id, tag.name, .claim, children, text, none⟩ : Tree).prepare .claim = .ok () := by
  rw [prepare_eq_ok_iff]
  refine ⟨rfl, isPlaceholder_claimTag tag id children text none, ?_⟩
  rw [defect?_eq_none_iff_of_claim rfl (isPlaceholder_claimTag tag id children text none)]
  exact ⟨rfl, tag, rfl, fits⟩

theorem prepare_observationTag
    {tag : ObservationTag}
    {children : List Tree}
    (fits : tag.signature.Fits children)
    (id : NodeId)
    (text : Option String) :
    (⟨id, tag.name, .observation, children, text, none⟩ : Tree).prepare .observation =
      .ok () := by
  rw [prepare_eq_ok_iff]
  refine ⟨rfl, isPlaceholder_observationTag tag id children text none, ?_⟩
  rw [defect?_eq_none_iff_of_observation rfl
    (isPlaceholder_observationTag tag id children text none)]
  exact ⟨rfl, tag, rfl, fits⟩

theorem prepare_inequalityTag
    {tag : InequalityTag}
    {children : List Tree}
    (fits : tag.signature.Fits children)
    (id : NodeId)
    (text : Option String) :
    (⟨id, tag.name, .inequality, children, text, none⟩ : Tree).prepare .inequality =
      .ok () := by
  rw [prepare_eq_ok_iff]
  refine ⟨rfl, isPlaceholder_inequalityTag tag id children text none, ?_⟩
  rw [defect?_eq_none_iff_of_inequality rfl
    (isPlaceholder_inequalityTag tag id children text none)]
  exact ⟨rfl, tag, rfl, fits⟩

/-- A reading that starts with a success goes on with its value. -/
private theorem ok_bind
    {ε α β : Type}
    (value : α)
    (next : α -> Except ε β) :
    (Except.ok value >>= next) = next value := rfl

/-- The decoder of a node that is ready goes on with what stands behind the check. -/
private theorem prepare_bind
    {α : Type}
    {node : Tree}
    {type : NodeType}
    {next : Unit -> Except TreeError α}
    (ready : node.prepare type = .ok ()) :
    (node.prepare type >>= next) = next () := by
  rw [ready, ok_bind]

/-! ## Leaves -/

/-- A leaf is read from a value node that carries it under the tag of its kind and
has no children. -/
theorem leaf_eq_ok_iff
    (node : Tree)
    (content : Leaf) :
    node.leaf = .ok content ↔
      node.type = .value ∧ node.tag = content.tag ∧ node.children = [] ∧
        node.value = some content := by
  constructor
  · intro read
    cases ready : node.prepare .value with
    | error error => simp [leaf, ready, bind, Except.bind] at read
    | ok passed =>
        obtain ⟨typed, filled, sound⟩ := (prepare_eq_ok_iff node .value).1 ready
        obtain ⟨childless, found, carries, tagged⟩ :=
          (defect?_eq_none_iff_of_value typed filled).1 sound
        simp only [leaf, ready, ok_bind, carries, Except.ok.injEq] at read
        subst read
        exact ⟨typed, tagged, childless, carries⟩
  · rintro ⟨typed, tagged, childless, carries⟩
    have filled : node.isPlaceholder = false := by
      simp [isPlaceholder, typed, carries]
    have ready : node.prepare .value = .ok () := by
      rw [prepare_eq_ok_iff, defect?_eq_none_iff_of_value typed filled]
      exact ⟨typed, filled, childless, content, carries, tagged⟩
    simp only [leaf, ready, ok_bind, carries]

theorem decodeAsset_eq_ok_iff
    (node : Tree)
    (asset : Asset) :
    node.decodeAsset = .ok asset ↔ node.leaf = .ok (.asset asset) := by
  unfold decodeAsset
  cases node.leaf with
  | error error => simp [bind, Except.bind]
  | ok content => cases content <;> simp [bind, Except.bind]

theorem decodeDecimal_eq_ok_iff
    (node : Tree)
    (number : Decimal) :
    node.decodeDecimal = .ok number ↔ node.leaf = .ok (.decimal number) := by
  unfold decodeDecimal
  cases node.leaf with
  | error error => simp [bind, Except.bind]
  | ok content => cases content <;> simp [bind, Except.bind]

theorem decodeDate_eq_ok_iff
    (node : Tree)
    (date : Date) :
    node.decodeDate = .ok date ↔ node.leaf = .ok (.date date) := by
  unfold decodeDate
  cases node.leaf with
  | error error => simp [bind, Except.bind]
  | ok content => cases content <;> simp [bind, Except.bind]

theorem decodeKey_eq_ok_iff
    (node : Tree)
    (key : String) :
    node.decodeKey = .ok key ↔ node.leaf = .ok (.key key) := by
  unfold decodeKey
  cases node.leaf with
  | error error => simp [bind, Except.bind]
  | ok content => cases content <;> simp [bind, Except.bind]

/-- A node from which a leaf is read may stand in the slot of that leaf. -/
theorem accepts_of_leaf
    {node : Tree}
    {content : Leaf}
    (read : node.leaf = .ok content) :
    (Slot.leaf content.kind).accepts node = true := by
  obtain ⟨typed, tagged, childless, carries⟩ := (leaf_eq_ok_iff node content).1 read
  simp [Slot.accepts, Slot.type, typed, tagged, Leaf.tag]

/-! ## Observations -/

section Observations

variable {id : NodeId} {text : Option String}

theorem decodeObservation_const
    {number : Tree}
    (fits : ObservationTag.const.signature.Fits [number]) :
    decodeObservation ⟨id, ObservationTag.const.name, .observation, [number], text, none⟩ =
      Observation.const <$> number.decodeDecimal := by
  exact prepare_bind (prepare_observationTag fits id text)

theorem decodeObservation_observe
    {key : Tree}
    (fits : ObservationTag.observe.signature.Fits [key]) :
    decodeObservation ⟨id, ObservationTag.observe.name, .observation, [key], text, none⟩ =
      Observation.observe <$> key.decodeKey := by
  exact prepare_bind (prepare_observationTag fits id text)

theorem decodeObservation_observeAt
    {key date : Tree}
    (fits : ObservationTag.observeAt.signature.Fits [key, date]) :
    decodeObservation
        ⟨id, ObservationTag.observeAt.name, .observation, [key, date], text, none⟩ =
      (do
        let key <- key.decodeKey
        let date <- date.decodeDate
        return .observeAt key date) := by
  exact prepare_bind (prepare_observationTag fits id text)

theorem decodeObservation_add
    {left right : Tree}
    (fits : ObservationTag.add.signature.Fits [left, right]) :
    decodeObservation ⟨id, ObservationTag.add.name, .observation, [left, right], text, none⟩ =
      (do
        let left <- left.decodeObservation
        let right <- right.decodeObservation
        return if text = some differenceMark then .sub left right else .add left right) := by
  exact prepare_bind (prepare_observationTag fits id text)

theorem decodeObservation_sub
    {left right : Tree}
    (fits : ObservationTag.sub.signature.Fits [left, right]) :
    decodeObservation ⟨id, ObservationTag.sub.name, .observation, [left, right], text, none⟩ =
      (do
        let left <- left.decodeObservation
        let right <- right.decodeObservation
        return .sub left right) := by
  exact prepare_bind (prepare_observationTag fits id text)

theorem decodeObservation_neg
    {operand : Tree}
    (fits : ObservationTag.neg.signature.Fits [operand]) :
    decodeObservation ⟨id, ObservationTag.neg.name, .observation, [operand], text, none⟩ =
      Observation.neg <$> operand.decodeObservation := by
  exact prepare_bind (prepare_observationTag fits id text)

theorem decodeObservation_mul
    {left right : Tree}
    (fits : ObservationTag.mul.signature.Fits [left, right]) :
    decodeObservation ⟨id, ObservationTag.mul.name, .observation, [left, right], text, none⟩ =
      (do
        let left <- left.decodeObservation
        let right <- right.decodeObservation
        return .mul left right) := by
  exact prepare_bind (prepare_observationTag fits id text)

theorem decodeObservation_div
    {left right : Tree}
    (fits : ObservationTag.div.signature.Fits [left, right]) :
    decodeObservation ⟨id, ObservationTag.div.name, .observation, [left, right], text, none⟩ =
      (do
        let left <- left.decodeObservation
        let right <- right.decodeObservation
        return .div left right) := by
  exact prepare_bind (prepare_observationTag fits id text)

end Observations

/-! ## Inequalities -/

section Inequalities

variable {id : NodeId} {text : Option String}

theorem decodeInequality_timeGte
    {date : Tree}
    (fits : InequalityTag.timeGte.signature.Fits [date]) :
    decodeInequality ⟨id, InequalityTag.timeGte.name, .inequality, [date], text, none⟩ =
      Inequality.timeGte <$> date.decodeDate := by
  exact prepare_bind (prepare_inequalityTag fits id text)

theorem decodeInequality_timeLte
    {date : Tree}
    (fits : InequalityTag.timeLte.signature.Fits [date]) :
    decodeInequality ⟨id, InequalityTag.timeLte.name, .inequality, [date], text, none⟩ =
      Inequality.timeLte <$> date.decodeDate := by
  exact prepare_bind (prepare_inequalityTag fits id text)

theorem decodeInequality_lte
    {left right : Tree}
    (fits : InequalityTag.lte.signature.Fits [left, right]) :
    decodeInequality ⟨id, InequalityTag.lte.name, .inequality, [left, right], text, none⟩ =
      (do
        let left <- left.decodeObservation
        let right <- right.decodeObservation
        return .lte left right) := by
  exact prepare_bind (prepare_inequalityTag fits id text)

end Inequalities

/-! ## Claims -/

section Claims

variable {id : NodeId} {text : Option String}

theorem decodeClaim_zero :
    decodeClaim ⟨id, ClaimTag.zero.name, .claim, [], text, none⟩ = .ok .zero := by
  have fits : ClaimTag.zero.signature.Fits [] := List.Forall₂.nil
  exact prepare_bind (prepare_claimTag fits id text)

theorem decodeClaim_one
    {asset : Tree}
    (fits : ClaimTag.one.signature.Fits [asset]) :
    decodeClaim ⟨id, ClaimTag.one.name, .claim, [asset], text, none⟩ =
      Claim.one <$> asset.decodeAsset := by
  exact prepare_bind (prepare_claimTag fits id text)

theorem decodeClaim_give
    {claim : Tree}
    (fits : ClaimTag.give.signature.Fits [claim]) :
    decodeClaim ⟨id, ClaimTag.give.name, .claim, [claim], text, none⟩ =
      Claim.give <$> claim.decodeClaim := by
  exact prepare_bind (prepare_claimTag fits id text)

theorem decodeClaim_and
    {first second : Tree}
    {others : List Tree}
    (fits : ClaimTag.and.signature.Fits (first :: second :: others)) :
    decodeClaim ⟨id, ClaimTag.and.name, .claim, first :: second :: others, text, none⟩ =
      (do
        let others <- decodeClaims others
        let first <- first.decodeClaim
        let second <- second.decodeClaim
        return .and first second others) := by
  exact prepare_bind (prepare_claimTag fits id text)

theorem decodeClaim_or
    {first second : Tree}
    {others : List Tree}
    (fits : ClaimTag.or.signature.Fits (first :: second :: others)) :
    decodeClaim ⟨id, ClaimTag.or.name, .claim, first :: second :: others, text, none⟩ =
      (do
        let others <- decodeElectables others
        let firstClaim <- first.decodeClaim
        let secondClaim <- second.decodeClaim
        return .or (.mk first.electableLabel firstClaim)
          (.mk second.electableLabel secondClaim) others) := by
  exact prepare_bind (prepare_claimTag fits id text)

theorem decodeClaim_cond
    {predicate success failure : Tree}
    (fits : ClaimTag.cond.signature.Fits [predicate, success, failure]) :
    decodeClaim
        ⟨id, ClaimTag.cond.name, .claim, [predicate, success, failure], text, none⟩ =
      (do
        let predicate <- predicate.decodeInequality
        let success <- success.decodeClaim
        let failure <- failure.decodeClaim
        return .cond predicate success failure) := by
  exact prepare_bind (prepare_claimTag fits id text)

theorem decodeClaim_scale
    {factor claim : Tree}
    (fits : ClaimTag.scale.signature.Fits [factor, claim]) :
    decodeClaim ⟨id, ClaimTag.scale.name, .claim, [factor, claim], text, none⟩ =
      (do
        let factor <- factor.decodeObservation
        let claim <- claim.decodeClaim
        return .scale factor claim) := by
  exact prepare_bind (prepare_claimTag fits id text)

theorem decodeClaim_whenHolds
    {predicate claim : Tree}
    (fits : ClaimTag.whenHolds.signature.Fits [predicate, claim]) :
    decodeClaim ⟨id, ClaimTag.whenHolds.name, .claim, [predicate, claim], text, none⟩ =
      (do
        let predicate <- predicate.decodeInequality
        let claim <- claim.decodeClaim
        return .whenHolds predicate claim) := by
  exact prepare_bind (prepare_claimTag fits id text)

theorem decodeClaim_untilHolds
    {predicate claim : Tree}
    (fits : ClaimTag.untilHolds.signature.Fits [predicate, claim]) :
    decodeClaim ⟨id, ClaimTag.untilHolds.name, .claim, [predicate, claim], text, none⟩ =
      (do
        let predicate <- predicate.decodeInequality
        let claim <- claim.decodeClaim
        return .untilHolds predicate claim) := by
  exact prepare_bind (prepare_claimTag fits id text)

theorem decodeClaim_anytime
    {predicate alternative : Tree}
    (fits : ClaimTag.anytime.signature.Fits [predicate, alternative]) :
    decodeClaim
        ⟨id, ClaimTag.anytime.name, .claim, [predicate, alternative], text, none⟩ =
      (do
        let predicate <- predicate.decodeInequality
        let claim <- alternative.decodeClaim
        return .anytime predicate (.mk alternative.electableLabel claim)) := by
  exact prepare_bind (prepare_claimTag fits id text)

end Claims

end Tree
end ContingentClaims
