import ContingentClaims.Proofs.Decoding.Equations

/-!
# Rules of reading

A node reads as a term if its operands read as the operands of that term: one rule
for each tag. The rules need nothing but the readings of the operands, since a node
that reads as a term of some kind has the type that this kind of operand asks for.
-/

namespace ContingentClaims
namespace Tree

/-! ## What is read from operands -/

theorem type_of_decodeObservation
    {node : Tree}
    {observation : Observation}
    (read : node.decodeObservation = .ok observation) :
    node.type = .observation := by
  rcases node with ⟨id, tag, type, children, text, value⟩
  cases ready : (⟨id, tag, type, children, text, value⟩ : Tree).prepare .observation with
  | error error =>
      unfold decodeObservation at read
      simp [ready, bind, Except.bind] at read
  | ok passed => exact ((prepare_eq_ok_iff _ .observation).1 ready).1

theorem type_of_decodeInequality
    {node : Tree}
    {inequality : Inequality}
    (read : node.decodeInequality = .ok inequality) :
    node.type = .inequality := by
  cases ready : node.prepare .inequality with
  | error error =>
      unfold decodeInequality at read
      simp [ready, bind, Except.bind] at read
  | ok passed => exact ((prepare_eq_ok_iff node .inequality).1 ready).1

theorem type_of_decodeClaim
    {node : Tree}
    {claim : Claim}
    (read : node.decodeClaim = .ok claim) :
    node.type = .claim := by
  rcases node with ⟨id, tag, type, children, text, value⟩
  cases ready : (⟨id, tag, type, children, text, value⟩ : Tree).prepare .claim with
  | error error =>
      unfold decodeClaim at read
      simp [ready, bind, Except.bind] at read
  | ok passed => exact ((prepare_eq_ok_iff _ .claim).1 ready).1

/-- A node with another text, or with none. -/
def setText
    (node : Tree)
    (text : Option String) : Tree :=
  { node with text }

/-- The text of a claim is its label as an alternative, and no part of its reading. -/
theorem decodeClaim_setText
    (node : Tree)
    (text : Option String) :
    (node.setText text).decodeClaim = node.decodeClaim := by
  rcases node with ⟨id, tag, type, children, old, value⟩
  change decodeClaim ⟨id, tag, type, children, text, value⟩ = _
  unfold decodeClaim
  rfl

@[simp] theorem decodeClaim_withText
    (node : Tree)
    (text : String) :
    (node.withText text).decodeClaim = node.decodeClaim :=
  node.decodeClaim_setText (some text)

/-- A node reads as an alternative if it carries the label and reads as the claim. -/
def ReadsAs
    (node : Tree)
    (electable : Electable) : Prop :=
  node.electableLabel = electable.label ∧ node.decodeClaim = .ok electable.claim

theorem readsAs_withText
    {node : Tree}
    {claim : Claim}
    (read : node.decodeClaim = .ok claim)
    (label : String) :
    (node.withText label).ReadsAs (.mk label claim) := by
  exact ⟨rfl, (decodeClaim_withText node label).trans read⟩

theorem decodeClaims_eq_ok_iff
    (nodes : List Tree)
    (claims : List Claim) :
    decodeClaims nodes = .ok claims ↔
      List.Forall₂ (fun node claim => node.decodeClaim = .ok claim) nodes claims := by
  induction nodes generalizing claims with
  | nil => simp [decodeClaims, pure, Except.pure, eq_comm]
  | cons node rest restHypothesis =>
      simp only [decodeClaims, List.forall₂_cons_left_iff, ← restHypothesis]
      cases node.decodeClaim with
      | error error => simp [bind, Except.bind]
      | ok first =>
          cases decodeClaims rest with
          | error error => simp [bind, Except.bind]
          | ok others => simp [bind, Except.bind, pure, Except.pure, eq_comm]

theorem decodeElectables_eq_ok_iff
    (nodes : List Tree)
    (electables : List Electable) :
    decodeElectables nodes = .ok electables ↔ List.Forall₂ ReadsAs nodes electables := by
  induction nodes generalizing electables with
  | nil => simp [decodeElectables, pure, Except.pure, eq_comm]
  | cons node rest restHypothesis =>
      simp only [decodeElectables, List.forall₂_cons_left_iff, ← restHypothesis, ReadsAs]
      cases node.decodeClaim with
      | error error => simp [bind, Except.bind]
      | ok first =>
          cases decodeElectables rest with
          | error error => simp [bind, Except.bind]
          | ok others =>
              simp only [bind, Except.bind, pure, Except.pure, Except.ok.injEq]
              constructor
              · rintro rfl
                exact ⟨.mk node.electableLabel first, others, ⟨rfl, rfl⟩, rfl, rfl⟩
              · rintro ⟨⟨label, claim⟩, rest, ⟨rfl, rfl⟩, rfl, rfl⟩
                rfl

theorem types_of_decodeClaims
    {nodes : List Tree}
    {claims : List Claim}
    (read : decodeClaims nodes = .ok claims) :
    ∀ node ∈ nodes, node.type = .claim := by
  have typed := ((decodeClaims_eq_ok_iff nodes claims).1 read).imp
    fun _ _ readNode => And.intro (type_of_decodeClaim readNode) readNode
  exact ((List.forall₂_and_left _ _).1 typed).1

theorem types_of_decodeElectables
    {nodes : List Tree}
    {electables : List Electable}
    (read : decodeElectables nodes = .ok electables) :
    ∀ node ∈ nodes, node.type = .claim := by
  have typed := ((decodeElectables_eq_ok_iff nodes electables).1 read).imp
    fun _ _ readsAs => And.intro (type_of_decodeClaim readsAs.2) readsAs
  exact ((List.forall₂_and_left _ _).1 typed).1

/-! ## Observations and inequalities -/

section Observations

variable {id : NodeId} {text : Option String}

theorem decodeObservation_const_eq_ok
    {node : Tree}
    {number : Decimal}
    (read : node.decodeDecimal = .ok number) :
    decodeObservation ⟨id, ObservationTag.const.name, .observation, [node], text, none⟩ =
      .ok (.const number) := by
  have accepted := accepts_of_leaf ((decodeDecimal_eq_ok_iff node number).1 read)
  rw [decodeObservation_const (.cons accepted .nil), read]
  rfl

theorem decodeObservation_observe_eq_ok
    {node : Tree}
    {key : String}
    (read : node.decodeKey = .ok key) :
    decodeObservation ⟨id, ObservationTag.observe.name, .observation, [node], text, none⟩ =
      .ok (.observe key) := by
  have accepted := accepts_of_leaf ((decodeKey_eq_ok_iff node key).1 read)
  rw [decodeObservation_observe (.cons accepted .nil), read]
  rfl

theorem decodeObservation_observeAt_eq_ok
    {keyNode dateNode : Tree}
    {key : String}
    {date : Date}
    (keyRead : keyNode.decodeKey = .ok key)
    (dateRead : dateNode.decodeDate = .ok date) :
    decodeObservation
        ⟨id, ObservationTag.observeAt.name, .observation, [keyNode, dateNode], text, none⟩ =
      .ok (.observeAt key date) := by
  have keyAccepted := accepts_of_leaf ((decodeKey_eq_ok_iff keyNode key).1 keyRead)
  have dateAccepted := accepts_of_leaf ((decodeDate_eq_ok_iff dateNode date).1 dateRead)
  rw [decodeObservation_observeAt (.cons keyAccepted (.cons dateAccepted .nil)), keyRead,
    dateRead]
  rfl

theorem decodeObservation_neg_eq_ok
    {node : Tree}
    {operand : Observation}
    (read : node.decodeObservation = .ok operand) :
    decodeObservation ⟨id, ObservationTag.neg.name, .observation, [node], text, none⟩ =
      .ok (.neg operand) := by
  have fits : ObservationTag.neg.signature.Fits [node] := by
    simp [ObservationTag.signature, type_of_decodeObservation read]
  rw [decodeObservation_neg fits, read]
  rfl

variable {leftNode rightNode : Tree} {left right : Observation}

theorem decodeObservation_add_eq_ok
    (unmarked : text ≠ some differenceMark)
    (leftRead : leftNode.decodeObservation = .ok left)
    (rightRead : rightNode.decodeObservation = .ok right) :
    decodeObservation
        ⟨id, ObservationTag.add.name, .observation, [leftNode, rightNode], text, none⟩ =
      .ok (.add left right) := by
  have fits : ObservationTag.add.signature.Fits [leftNode, rightNode] := by
    simp [ObservationTag.signature, type_of_decodeObservation leftRead,
      type_of_decodeObservation rightRead]
  rw [decodeObservation_add fits, leftRead, rightRead]
  simp only [if_neg unmarked]
  rfl

theorem decodeObservation_difference_eq_ok
    (leftRead : leftNode.decodeObservation = .ok left)
    (rightRead : rightNode.decodeObservation = .ok right) :
    decodeObservation
        ⟨id, ObservationTag.add.name, .observation, [leftNode, rightNode],
          some differenceMark, none⟩ =
      .ok (.sub left right) := by
  have fits : ObservationTag.add.signature.Fits [leftNode, rightNode] := by
    simp [ObservationTag.signature, type_of_decodeObservation leftRead,
      type_of_decodeObservation rightRead]
  rw [decodeObservation_add fits, leftRead, rightRead]
  rfl

theorem decodeObservation_sub_eq_ok
    (leftRead : leftNode.decodeObservation = .ok left)
    (rightRead : rightNode.decodeObservation = .ok right) :
    decodeObservation
        ⟨id, ObservationTag.sub.name, .observation, [leftNode, rightNode], text, none⟩ =
      .ok (.sub left right) := by
  have fits : ObservationTag.sub.signature.Fits [leftNode, rightNode] := by
    simp [ObservationTag.signature, type_of_decodeObservation leftRead,
      type_of_decodeObservation rightRead]
  rw [decodeObservation_sub fits, leftRead, rightRead]
  rfl

theorem decodeObservation_mul_eq_ok
    (leftRead : leftNode.decodeObservation = .ok left)
    (rightRead : rightNode.decodeObservation = .ok right) :
    decodeObservation
        ⟨id, ObservationTag.mul.name, .observation, [leftNode, rightNode], text, none⟩ =
      .ok (.mul left right) := by
  have fits : ObservationTag.mul.signature.Fits [leftNode, rightNode] := by
    simp [ObservationTag.signature, type_of_decodeObservation leftRead,
      type_of_decodeObservation rightRead]
  rw [decodeObservation_mul fits, leftRead, rightRead]
  rfl

theorem decodeObservation_div_eq_ok
    (leftRead : leftNode.decodeObservation = .ok left)
    (rightRead : rightNode.decodeObservation = .ok right) :
    decodeObservation
        ⟨id, ObservationTag.div.name, .observation, [leftNode, rightNode], text, none⟩ =
      .ok (.div left right) := by
  have fits : ObservationTag.div.signature.Fits [leftNode, rightNode] := by
    simp [ObservationTag.signature, type_of_decodeObservation leftRead,
      type_of_decodeObservation rightRead]
  rw [decodeObservation_div fits, leftRead, rightRead]
  rfl

theorem decodeInequality_lte_eq_ok
    (leftRead : leftNode.decodeObservation = .ok left)
    (rightRead : rightNode.decodeObservation = .ok right) :
    decodeInequality
        ⟨id, InequalityTag.lte.name, .inequality, [leftNode, rightNode], text, none⟩ =
      .ok (.lte left right) := by
  have fits : InequalityTag.lte.signature.Fits [leftNode, rightNode] := by
    simp [InequalityTag.signature, type_of_decodeObservation leftRead,
      type_of_decodeObservation rightRead]
  rw [decodeInequality_lte fits, leftRead, rightRead]
  rfl

theorem decodeInequality_timeGte_eq_ok
    {node : Tree}
    {date : Date}
    (read : node.decodeDate = .ok date) :
    decodeInequality ⟨id, InequalityTag.timeGte.name, .inequality, [node], text, none⟩ =
      .ok (.timeGte date) := by
  have accepted := accepts_of_leaf ((decodeDate_eq_ok_iff node date).1 read)
  rw [decodeInequality_timeGte (.cons accepted .nil), read]
  rfl

theorem decodeInequality_timeLte_eq_ok
    {node : Tree}
    {date : Date}
    (read : node.decodeDate = .ok date) :
    decodeInequality ⟨id, InequalityTag.timeLte.name, .inequality, [node], text, none⟩ =
      .ok (.timeLte date) := by
  have accepted := accepts_of_leaf ((decodeDate_eq_ok_iff node date).1 read)
  rw [decodeInequality_timeLte (.cons accepted .nil), read]
  rfl

end Observations

/-! ## Claims -/

section Claims

variable {id : NodeId} {text : Option String} {node : Tree} {claim : Claim}

theorem decodeClaim_one_eq_ok
    {asset : Asset}
    (read : node.decodeAsset = .ok asset) :
    decodeClaim ⟨id, ClaimTag.one.name, .claim, [node], text, none⟩ = .ok (.one asset) := by
  have accepted := accepts_of_leaf ((decodeAsset_eq_ok_iff node asset).1 read)
  rw [decodeClaim_one (.cons accepted .nil), read]
  rfl

theorem decodeClaim_give_eq_ok (read : node.decodeClaim = .ok claim) :
    decodeClaim ⟨id, ClaimTag.give.name, .claim, [node], text, none⟩ =
      .ok (.give claim) := by
  have fits : ClaimTag.give.signature.Fits [node] := by
    simp [ClaimTag.signature, type_of_decodeClaim read]
  rw [decodeClaim_give fits, read]
  rfl

theorem decodeClaim_and_eq_ok
    {firstNode secondNode : Tree}
    {otherNodes : List Tree}
    {first second : Claim}
    {others : List Claim}
    (firstRead : firstNode.decodeClaim = .ok first)
    (secondRead : secondNode.decodeClaim = .ok second)
    (othersRead : decodeClaims otherNodes = .ok others) :
    decodeClaim
        ⟨id, ClaimTag.and.name, .claim, firstNode :: secondNode :: otherNodes, text, none⟩ =
      .ok (.and first second others) := by
  have fits : ClaimTag.and.signature.Fits (firstNode :: secondNode :: otherNodes) := by
    simpa [ClaimTag.signature, type_of_decodeClaim firstRead, type_of_decodeClaim secondRead]
      using types_of_decodeClaims othersRead
  rw [decodeClaim_and fits, othersRead, firstRead, secondRead]
  rfl

theorem decodeClaim_or_eq_ok
    {firstNode secondNode : Tree}
    {otherNodes : List Tree}
    {first second : Electable}
    {others : List Electable}
    (firstReads : firstNode.ReadsAs first)
    (secondReads : secondNode.ReadsAs second)
    (othersRead : decodeElectables otherNodes = .ok others) :
    decodeClaim
        ⟨id, ClaimTag.or.name, .claim, firstNode :: secondNode :: otherNodes, text, none⟩ =
      .ok (.or first second others) := by
  rcases first with ⟨firstLabel, firstClaim⟩
  rcases second with ⟨secondLabel, secondClaim⟩
  obtain ⟨rfl, firstRead⟩ := firstReads
  obtain ⟨rfl, secondRead⟩ := secondReads
  have fits : ClaimTag.or.signature.Fits (firstNode :: secondNode :: otherNodes) := by
    simpa [ClaimTag.signature, type_of_decodeClaim firstRead, type_of_decodeClaim secondRead]
      using types_of_decodeElectables othersRead
  rw [decodeClaim_or fits, othersRead, firstRead, secondRead]
  rfl

theorem decodeClaim_scale_eq_ok
    {factorNode : Tree}
    {factor : Observation}
    (factorRead : factorNode.decodeObservation = .ok factor)
    (read : node.decodeClaim = .ok claim) :
    decodeClaim ⟨id, ClaimTag.scale.name, .claim, [factorNode, node], text, none⟩ =
      .ok (.scale factor claim) := by
  have fits : ClaimTag.scale.signature.Fits [factorNode, node] := by
    simp [ClaimTag.signature, type_of_decodeObservation factorRead, type_of_decodeClaim read]
  rw [decodeClaim_scale fits, factorRead, read]
  rfl

variable {predicateNode : Tree} {predicate : Inequality}

theorem decodeClaim_cond_eq_ok
    {failureNode : Tree}
    {failure : Claim}
    (predicateRead : predicateNode.decodeInequality = .ok predicate)
    (read : node.decodeClaim = .ok claim)
    (failureRead : failureNode.decodeClaim = .ok failure) :
    decodeClaim
        ⟨id, ClaimTag.cond.name, .claim, [predicateNode, node, failureNode], text, none⟩ =
      .ok (.cond predicate claim failure) := by
  have fits : ClaimTag.cond.signature.Fits [predicateNode, node, failureNode] := by
    simp [ClaimTag.signature, type_of_decodeInequality predicateRead,
      type_of_decodeClaim read, type_of_decodeClaim failureRead]
  rw [decodeClaim_cond fits, predicateRead, read, failureRead]
  rfl

theorem decodeClaim_whenHolds_eq_ok
    (predicateRead : predicateNode.decodeInequality = .ok predicate)
    (read : node.decodeClaim = .ok claim) :
    decodeClaim ⟨id, ClaimTag.whenHolds.name, .claim, [predicateNode, node], text, none⟩ =
      .ok (.whenHolds predicate claim) := by
  have fits : ClaimTag.whenHolds.signature.Fits [predicateNode, node] := by
    simp [ClaimTag.signature, type_of_decodeInequality predicateRead,
      type_of_decodeClaim read]
  rw [decodeClaim_whenHolds fits, predicateRead, read]
  rfl

theorem decodeClaim_untilHolds_eq_ok
    (predicateRead : predicateNode.decodeInequality = .ok predicate)
    (read : node.decodeClaim = .ok claim) :
    decodeClaim ⟨id, ClaimTag.untilHolds.name, .claim, [predicateNode, node], text, none⟩ =
      .ok (.untilHolds predicate claim) := by
  have fits : ClaimTag.untilHolds.signature.Fits [predicateNode, node] := by
    simp [ClaimTag.signature, type_of_decodeInequality predicateRead,
      type_of_decodeClaim read]
  rw [decodeClaim_untilHolds fits, predicateRead, read]
  rfl

theorem decodeClaim_anytime_eq_ok
    {electable : Electable}
    (predicateRead : predicateNode.decodeInequality = .ok predicate)
    (reads : node.ReadsAs electable) :
    decodeClaim ⟨id, ClaimTag.anytime.name, .claim, [predicateNode, node], text, none⟩ =
      .ok (.anytime predicate electable) := by
  rcases electable with ⟨label, claim⟩
  obtain ⟨rfl, read⟩ := reads
  have fits : ClaimTag.anytime.signature.Fits [predicateNode, node] := by
    simp [ClaimTag.signature, type_of_decodeInequality predicateRead,
      type_of_decodeClaim read]
  rw [decodeClaim_anytime fits, predicateRead, read]
  rfl

end Claims

end Tree
end ContingentClaims
