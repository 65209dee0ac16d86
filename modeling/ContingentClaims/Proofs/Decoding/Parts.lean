import ContingentClaims.Proofs.Decoding.Rules

/-!
# How a reading divides

A node that is read as a term has the tag of one of the rules of reading, and its
operands are read as the operands of the term. The rules are collected in one
relation for each kind of term, from the parts of the node to the parts of the term;
a node reads as a term exactly by one of them.
-/

namespace ContingentClaims
namespace Tree

/-! ## The rules -/

/-- A node reads as an observation through its operands. -/
inductive ObservationParts : Tree -> Observation -> Prop
  | const
      {id : NodeId}
      {text : Option String}
      {node : Tree}
      {number : Decimal}
      (read : node.decodeDecimal = .ok number) :
      ObservationParts
        ⟨id, ObservationTag.const.name, .observation, [node], text, none⟩ (.const number)
  | observe
      {id : NodeId}
      {text : Option String}
      {node : Tree}
      {key : String}
      (read : node.decodeKey = .ok key) :
      ObservationParts
        ⟨id, ObservationTag.observe.name, .observation, [node], text, none⟩ (.observe key)
  | observeAt
      {id : NodeId}
      {text : Option String}
      {keyNode dateNode : Tree}
      {key : String}
      {date : Date}
      (keyRead : keyNode.decodeKey = .ok key)
      (dateRead : dateNode.decodeDate = .ok date) :
      ObservationParts
        ⟨id, ObservationTag.observeAt.name, .observation, [keyNode, dateNode], text, none⟩
        (.observeAt key date)
  | add
      {id : NodeId}
      {text : Option String}
      {leftNode rightNode : Tree}
      {left right : Observation}
      (leftRead : leftNode.decodeObservation = .ok left)
      (rightRead : rightNode.decodeObservation = .ok right) :
      ObservationParts
        ⟨id, ObservationTag.add.name, .observation, [leftNode, rightNode], text, none⟩
        (if text = some differenceMark then .sub left right else .add left right)
  | sub
      {id : NodeId}
      {text : Option String}
      {leftNode rightNode : Tree}
      {left right : Observation}
      (leftRead : leftNode.decodeObservation = .ok left)
      (rightRead : rightNode.decodeObservation = .ok right) :
      ObservationParts
        ⟨id, ObservationTag.sub.name, .observation, [leftNode, rightNode], text, none⟩
        (.sub left right)
  | neg
      {id : NodeId}
      {text : Option String}
      {node : Tree}
      {operand : Observation}
      (read : node.decodeObservation = .ok operand) :
      ObservationParts
        ⟨id, ObservationTag.neg.name, .observation, [node], text, none⟩ (.neg operand)
  | mul
      {id : NodeId}
      {text : Option String}
      {leftNode rightNode : Tree}
      {left right : Observation}
      (leftRead : leftNode.decodeObservation = .ok left)
      (rightRead : rightNode.decodeObservation = .ok right) :
      ObservationParts
        ⟨id, ObservationTag.mul.name, .observation, [leftNode, rightNode], text, none⟩
        (.mul left right)
  | div
      {id : NodeId}
      {text : Option String}
      {leftNode rightNode : Tree}
      {left right : Observation}
      (leftRead : leftNode.decodeObservation = .ok left)
      (rightRead : rightNode.decodeObservation = .ok right) :
      ObservationParts
        ⟨id, ObservationTag.div.name, .observation, [leftNode, rightNode], text, none⟩
        (.div left right)

/-- A node reads as an inequality through its operands. -/
inductive InequalityParts : Tree -> Inequality -> Prop
  | timeGte
      {id : NodeId}
      {text : Option String}
      {node : Tree}
      {date : Date}
      (read : node.decodeDate = .ok date) :
      InequalityParts
        ⟨id, InequalityTag.timeGte.name, .inequality, [node], text, none⟩ (.timeGte date)
  | timeLte
      {id : NodeId}
      {text : Option String}
      {node : Tree}
      {date : Date}
      (read : node.decodeDate = .ok date) :
      InequalityParts
        ⟨id, InequalityTag.timeLte.name, .inequality, [node], text, none⟩ (.timeLte date)
  | lte
      {id : NodeId}
      {text : Option String}
      {leftNode rightNode : Tree}
      {left right : Observation}
      (leftRead : leftNode.decodeObservation = .ok left)
      (rightRead : rightNode.decodeObservation = .ok right) :
      InequalityParts
        ⟨id, InequalityTag.lte.name, .inequality, [leftNode, rightNode], text, none⟩
        (.lte left right)

/-- A node reads as a claim through its operands. -/
inductive ClaimParts : Tree -> Claim -> Prop
  | zero
      {id : NodeId}
      {text : Option String} :
      ClaimParts ⟨id, ClaimTag.zero.name, .claim, [], text, none⟩ .zero
  | one
      {id : NodeId}
      {text : Option String}
      {node : Tree}
      {asset : Asset}
      (read : node.decodeAsset = .ok asset) :
      ClaimParts ⟨id, ClaimTag.one.name, .claim, [node], text, none⟩ (.one asset)
  | give
      {id : NodeId}
      {text : Option String}
      {node : Tree}
      {claim : Claim}
      (read : node.decodeClaim = .ok claim) :
      ClaimParts ⟨id, ClaimTag.give.name, .claim, [node], text, none⟩ (.give claim)
  | and
      {id : NodeId}
      {text : Option String}
      {firstNode secondNode : Tree}
      {otherNodes : List Tree}
      {first second : Claim}
      {others : List Claim}
      (firstRead : firstNode.decodeClaim = .ok first)
      (secondRead : secondNode.decodeClaim = .ok second)
      (othersRead : decodeClaims otherNodes = .ok others) :
      ClaimParts
        ⟨id, ClaimTag.and.name, .claim, firstNode :: secondNode :: otherNodes, text, none⟩
        (.and first second others)
  | or
      {id : NodeId}
      {text : Option String}
      {firstNode secondNode : Tree}
      {otherNodes : List Tree}
      {first second : Electable}
      {others : List Electable}
      (firstReads : firstNode.ReadsAs first)
      (secondReads : secondNode.ReadsAs second)
      (othersRead : decodeElectables otherNodes = .ok others) :
      ClaimParts
        ⟨id, ClaimTag.or.name, .claim, firstNode :: secondNode :: otherNodes, text, none⟩
        (.or first second others)
  | cond
      {id : NodeId}
      {text : Option String}
      {predicateNode successNode failureNode : Tree}
      {predicate : Inequality}
      {success failure : Claim}
      (predicateRead : predicateNode.decodeInequality = .ok predicate)
      (successRead : successNode.decodeClaim = .ok success)
      (failureRead : failureNode.decodeClaim = .ok failure) :
      ClaimParts
        ⟨id, ClaimTag.cond.name, .claim, [predicateNode, successNode, failureNode], text, none⟩
        (.cond predicate success failure)
  | scale
      {id : NodeId}
      {text : Option String}
      {factorNode node : Tree}
      {factor : Observation}
      {claim : Claim}
      (factorRead : factorNode.decodeObservation = .ok factor)
      (read : node.decodeClaim = .ok claim) :
      ClaimParts
        ⟨id, ClaimTag.scale.name, .claim, [factorNode, node], text, none⟩
        (.scale factor claim)
  | whenHolds
      {id : NodeId}
      {text : Option String}
      {predicateNode node : Tree}
      {predicate : Inequality}
      {claim : Claim}
      (predicateRead : predicateNode.decodeInequality = .ok predicate)
      (read : node.decodeClaim = .ok claim) :
      ClaimParts
        ⟨id, ClaimTag.whenHolds.name, .claim, [predicateNode, node], text, none⟩
        (.whenHolds predicate claim)
  | untilHolds
      {id : NodeId}
      {text : Option String}
      {predicateNode node : Tree}
      {predicate : Inequality}
      {claim : Claim}
      (predicateRead : predicateNode.decodeInequality = .ok predicate)
      (read : node.decodeClaim = .ok claim) :
      ClaimParts
        ⟨id, ClaimTag.untilHolds.name, .claim, [predicateNode, node], text, none⟩
        (.untilHolds predicate claim)
  | anytime
      {id : NodeId}
      {text : Option String}
      {predicateNode node : Tree}
      {predicate : Inequality}
      {electable : Electable}
      (predicateRead : predicateNode.decodeInequality = .ok predicate)
      (reads : node.ReadsAs electable) :
      ClaimParts
        ⟨id, ClaimTag.anytime.name, .claim, [predicateNode, node], text, none⟩
        (.anytime predicate electable)

/-! ## Readings by the rules -/

/-- A sequence of readings succeeds if its parts do. -/
theorem bind_eq_ok_iff
    {ε α β : Type}
    (first : Except ε α)
    (next : α -> Except ε β)
    (result : β) :
    (first >>= next) = .ok result ↔ ∃ value, first = .ok value ∧ next value = .ok result := by
  cases first <;> simp [bind, Except.bind]

theorem map_eq_ok_iff
    {ε α β : Type}
    (function : α -> β)
    (first : Except ε α)
    (result : β) :
    (function <$> first) = .ok result ↔ ∃ value, first = .ok value ∧ function value = result := by
  cases first <;> simp [Functor.map, Except.map]

theorem pure_eq_ok_iff
    {ε α : Type}
    (value result : α) :
    (pure value : Except ε α) = .ok result ↔ value = result := by
  simp [pure, Except.pure]

/-- An observation is read exactly by a rule. -/
theorem decodeObservation_eq_ok_iff
    (node : Tree)
    (observation : Observation) :
    node.decodeObservation = .ok observation ↔ node.ObservationParts observation := by
  constructor
  · intro read
    have ready : node.prepare .observation = .ok () := by
      rcases node with ⟨id, tag, type, children, text, value⟩
      unfold decodeObservation at read
      obtain ⟨passed, ready, _⟩ := (bind_eq_ok_iff _ _ _).1 read
      exact ready
    obtain ⟨typed, filled, sound⟩ := (prepare_eq_ok_iff node .observation).1 ready
    obtain ⟨bare, observationTag, named, fits⟩ :=
      (defect?_eq_none_iff_of_observation typed filled).1 sound
    rcases node with ⟨id, tag, type, children, text, value⟩
    subst typed bare named
    cases observationTag with
    | const =>
        obtain ⟨number, _, rfl⟩ := (Signature.fits_one _ children).1 fits
        rw [decodeObservation_const fits, map_eq_ok_iff] at read
        obtain ⟨content, read, rfl⟩ := read
        exact .const read
    | observe =>
        obtain ⟨key, _, rfl⟩ := (Signature.fits_one _ children).1 fits
        rw [decodeObservation_observe fits, map_eq_ok_iff] at read
        obtain ⟨content, read, rfl⟩ := read
        exact .observe read
    | neg =>
        obtain ⟨operand, _, rfl⟩ := (Signature.fits_one _ children).1 fits
        rw [decodeObservation_neg fits, map_eq_ok_iff] at read
        obtain ⟨content, read, rfl⟩ := read
        exact .neg read
    | observeAt =>
        obtain ⟨key, date, _, _, rfl⟩ := (Signature.fits_two _ _ children).1 fits
        rw [decodeObservation_observeAt fits] at read
        simp only [bind_eq_ok_iff, pure_eq_ok_iff] at read
        obtain ⟨_, keyRead, _, dateRead, rfl⟩ := read
        exact .observeAt keyRead dateRead
    | add =>
        obtain ⟨left, right, _, _, rfl⟩ := (Signature.fits_two _ _ children).1 fits
        rw [decodeObservation_add fits] at read
        simp only [bind_eq_ok_iff, pure_eq_ok_iff] at read
        obtain ⟨_, leftRead, _, rightRead, rfl⟩ := read
        exact .add leftRead rightRead
    | sub =>
        obtain ⟨left, right, _, _, rfl⟩ := (Signature.fits_two _ _ children).1 fits
        rw [decodeObservation_sub fits] at read
        simp only [bind_eq_ok_iff, pure_eq_ok_iff] at read
        obtain ⟨_, leftRead, _, rightRead, rfl⟩ := read
        exact .sub leftRead rightRead
    | mul =>
        obtain ⟨left, right, _, _, rfl⟩ := (Signature.fits_two _ _ children).1 fits
        rw [decodeObservation_mul fits] at read
        simp only [bind_eq_ok_iff, pure_eq_ok_iff] at read
        obtain ⟨_, leftRead, _, rightRead, rfl⟩ := read
        exact .mul leftRead rightRead
    | div =>
        obtain ⟨left, right, _, _, rfl⟩ := (Signature.fits_two _ _ children).1 fits
        rw [decodeObservation_div fits] at read
        simp only [bind_eq_ok_iff, pure_eq_ok_iff] at read
        obtain ⟨_, leftRead, _, rightRead, rfl⟩ := read
        exact .div leftRead rightRead
  · rintro parts
    cases parts with
    | const read => exact decodeObservation_const_eq_ok read
    | observe read => exact decodeObservation_observe_eq_ok read
    | observeAt keyRead dateRead => exact decodeObservation_observeAt_eq_ok keyRead dateRead
    | add leftRead rightRead =>
        split
        next marked =>
          subst marked
          exact decodeObservation_difference_eq_ok leftRead rightRead
        next unmarked => exact decodeObservation_add_eq_ok unmarked leftRead rightRead
    | sub leftRead rightRead => exact decodeObservation_sub_eq_ok leftRead rightRead
    | neg read => exact decodeObservation_neg_eq_ok read
    | mul leftRead rightRead => exact decodeObservation_mul_eq_ok leftRead rightRead
    | div leftRead rightRead => exact decodeObservation_div_eq_ok leftRead rightRead

/-- An inequality is read exactly by a rule. -/
theorem decodeInequality_eq_ok_iff
    (node : Tree)
    (inequality : Inequality) :
    node.decodeInequality = .ok inequality ↔ node.InequalityParts inequality := by
  constructor
  · intro read
    have ready : node.prepare .inequality = .ok () := by
      unfold decodeInequality at read
      obtain ⟨passed, ready, _⟩ := (bind_eq_ok_iff _ _ _).1 read
      exact ready
    obtain ⟨typed, filled, sound⟩ := (prepare_eq_ok_iff node .inequality).1 ready
    obtain ⟨bare, inequalityTag, named, fits⟩ :=
      (defect?_eq_none_iff_of_inequality typed filled).1 sound
    rcases node with ⟨id, tag, type, children, text, value⟩
    subst typed bare named
    cases inequalityTag with
    | timeGte =>
        obtain ⟨date, _, rfl⟩ := (Signature.fits_one _ children).1 fits
        rw [decodeInequality_timeGte fits, map_eq_ok_iff] at read
        obtain ⟨content, read, rfl⟩ := read
        exact .timeGte read
    | timeLte =>
        obtain ⟨date, _, rfl⟩ := (Signature.fits_one _ children).1 fits
        rw [decodeInequality_timeLte fits, map_eq_ok_iff] at read
        obtain ⟨content, read, rfl⟩ := read
        exact .timeLte read
    | lte =>
        obtain ⟨left, right, _, _, rfl⟩ := (Signature.fits_two _ _ children).1 fits
        rw [decodeInequality_lte fits] at read
        simp only [bind_eq_ok_iff, pure_eq_ok_iff] at read
        obtain ⟨_, leftRead, _, rightRead, rfl⟩ := read
        exact .lte leftRead rightRead
  · intro parts
    cases parts with
    | timeGte read => exact decodeInequality_timeGte_eq_ok read
    | timeLte read => exact decodeInequality_timeLte_eq_ok read
    | lte leftRead rightRead => exact decodeInequality_lte_eq_ok leftRead rightRead

/-- A claim is read exactly by a rule. -/
theorem decodeClaim_eq_ok_iff
    (node : Tree)
    (claim : Claim) :
    node.decodeClaim = .ok claim ↔ node.ClaimParts claim := by
  constructor
  · intro read
    have ready : node.prepare .claim = .ok () := by
      rcases node with ⟨id, tag, type, children, text, value⟩
      unfold decodeClaim at read
      obtain ⟨passed, ready, _⟩ := (bind_eq_ok_iff _ _ _).1 read
      exact ready
    obtain ⟨typed, filled, sound⟩ := (prepare_eq_ok_iff node .claim).1 ready
    obtain ⟨bare, claimTag, named, fits⟩ :=
      (defect?_eq_none_iff_of_claim typed filled).1 sound
    rcases node with ⟨id, tag, type, children, text, value⟩
    subst typed bare named
    cases claimTag with
    | zero =>
        obtain rfl := List.forall₂_nil_left_iff.1 fits
        rw [decodeClaim_zero, Except.ok.injEq] at read
        subst read
        exact .zero
    | one =>
        obtain ⟨asset, _, rfl⟩ := (Signature.fits_one _ children).1 fits
        rw [decodeClaim_one fits, map_eq_ok_iff] at read
        obtain ⟨content, read, rfl⟩ := read
        exact .one read
    | give =>
        obtain ⟨claim, _, rfl⟩ := (Signature.fits_one _ children).1 fits
        rw [decodeClaim_give fits, map_eq_ok_iff] at read
        obtain ⟨content, read, rfl⟩ := read
        exact .give read
    | and =>
        obtain ⟨first, second, others, rfl⟩ := Signature.fits_atLeastTwo fits
        rw [decodeClaim_and fits] at read
        simp only [bind_eq_ok_iff, pure_eq_ok_iff] at read
        obtain ⟨_, othersRead, _, firstRead, _, secondRead, rfl⟩ := read
        exact .and firstRead secondRead othersRead
    | or =>
        obtain ⟨first, second, others, rfl⟩ := Signature.fits_atLeastTwo fits
        rw [decodeClaim_or fits] at read
        simp only [bind_eq_ok_iff, pure_eq_ok_iff] at read
        obtain ⟨_, othersRead, _, firstRead, _, secondRead, rfl⟩ := read
        exact .or ⟨rfl, firstRead⟩ ⟨rfl, secondRead⟩ othersRead
    | cond =>
        obtain ⟨predicate, success, failure, _, _, _, rfl⟩ :=
          (Signature.fits_three _ _ _ children).1 fits
        rw [decodeClaim_cond fits] at read
        simp only [bind_eq_ok_iff, pure_eq_ok_iff] at read
        obtain ⟨_, predicateRead, _, successRead, _, failureRead, rfl⟩ := read
        exact .cond predicateRead successRead failureRead
    | scale =>
        obtain ⟨factor, claim, _, _, rfl⟩ := (Signature.fits_two _ _ children).1 fits
        rw [decodeClaim_scale fits] at read
        simp only [bind_eq_ok_iff, pure_eq_ok_iff] at read
        obtain ⟨_, factorRead, _, claimRead, rfl⟩ := read
        exact .scale factorRead claimRead
    | whenHolds =>
        obtain ⟨predicate, claim, _, _, rfl⟩ := (Signature.fits_two _ _ children).1 fits
        rw [decodeClaim_whenHolds fits] at read
        simp only [bind_eq_ok_iff, pure_eq_ok_iff] at read
        obtain ⟨_, predicateRead, _, claimRead, rfl⟩ := read
        exact .whenHolds predicateRead claimRead
    | untilHolds =>
        obtain ⟨predicate, claim, _, _, rfl⟩ := (Signature.fits_two _ _ children).1 fits
        rw [decodeClaim_untilHolds fits] at read
        simp only [bind_eq_ok_iff, pure_eq_ok_iff] at read
        obtain ⟨_, predicateRead, _, claimRead, rfl⟩ := read
        exact .untilHolds predicateRead claimRead
    | anytime =>
        obtain ⟨predicate, alternative, _, _, rfl⟩ := (Signature.fits_two _ _ children).1 fits
        rw [decodeClaim_anytime fits] at read
        simp only [bind_eq_ok_iff, pure_eq_ok_iff] at read
        obtain ⟨_, predicateRead, _, claimRead, rfl⟩ := read
        exact .anytime predicateRead ⟨rfl, claimRead⟩
  · intro parts
    cases parts with
    | zero => exact decodeClaim_zero
    | one read => exact decodeClaim_one_eq_ok read
    | give read => exact decodeClaim_give_eq_ok read
    | and firstRead secondRead othersRead =>
        exact decodeClaim_and_eq_ok firstRead secondRead othersRead
    | or firstReads secondReads othersRead =>
        exact decodeClaim_or_eq_ok firstReads secondReads othersRead
    | cond predicateRead successRead failureRead =>
        exact decodeClaim_cond_eq_ok predicateRead successRead failureRead
    | scale factorRead read => exact decodeClaim_scale_eq_ok factorRead read
    | whenHolds predicateRead read => exact decodeClaim_whenHolds_eq_ok predicateRead read
    | untilHolds predicateRead read => exact decodeClaim_untilHolds_eq_ok predicateRead read
    | anytime predicateRead reads => exact decodeClaim_anytime_eq_ok predicateRead reads

end Tree
end ContingentClaims
