import ContingentClaims.Proofs.Decoding.Equations
import ContingentClaims.Proofs.Tree.Children
import Mathlib.Data.List.Perm.Basic

/-!
# Which fault is reported

The decoder visits nodes in *reading order*: a node before its operands, and these
in order, but for conjunctions and choices, whose first two operands come last. It
fails exactly if some node is to blame, that is, an open slot or a node that breaks
the grammar, and it reports the first such node in reading order.

Main statements: `errorOf?_decodeClaim`, `errorOf?_decodeObservation` and
`errorOf?_decodeInequality`. Reading order lists the nodes of the tree, each as often
as pre-order does (`reading_perm_preorder`).
-/

namespace ContingentClaims

/-- The error of a computation that fails. -/
def errorOf?
    {ε α : Type} : Except ε α -> Option ε
  | .error error => some error
  | .ok _ => none

section Errors

variable {ε α β : Type}

@[simp] theorem errorOf?_error (error : ε) :
    errorOf? (.error error : Except ε α) = some error := rfl

@[simp] theorem errorOf?_ok (value : α) :
    errorOf? (.ok value : Except ε α) = none := rfl

@[simp] theorem errorOf?_pure (value : α) :
    errorOf? (pure value : Except ε α) = none := rfl

@[simp] theorem errorOf?_map
    (change : α -> β)
    (result : Except ε α) :
    errorOf? (change <$> result) = errorOf? result := by
  cases result <;> rfl

/-- If a step goes on to the same error whatever its value is, its own error comes
first. -/
theorem errorOf?_bind
    {result : Except ε α}
    {next : α -> Except ε β}
    {later : Option ε}
    (same : ∀ value, errorOf? (next value) = later) :
    errorOf? (result >>= next) = (errorOf? result).or later := by
  cases result with
  | error error => rfl
  | ok value => simpa [bind, Except.bind] using same value

theorem errorOf?_eq_none_iff (result : Except ε α) :
    errorOf? result = none ↔ ∃ value, result = .ok value := by
  cases result <;> simp

theorem errorOf?_eq_some_iff
    (result : Except ε α)
    (error : ε) :
    errorOf? result = some error ↔ result = .error error := by
  cases result <;> simp

end Errors

namespace Tree

/-! ## Reading order -/

/-- What a node is to blame for: being an open slot, or else breaking the grammar. -/
def blame? (node : Tree) : Option TreeError :=
  if node.isPlaceholder then some (.ofSlot node) else node.fault?

/-- Whether the first two operands of a node are read last. -/
def readsFirstTwoLast (node : Tree) : Bool :=
  node.type == .claim && (node.tag == ClaimTag.and.name || node.tag == ClaimTag.or.name)

mutual

/-- The nodes in the order in which they are read. -/
def reading : Tree -> List Tree
  | ⟨id, tag, type, children, text, value⟩ =>
      let node : Tree := ⟨id, tag, type, children, text, value⟩
      let operands := readings children
      node ::
        if node.readsFirstTwoLast then (operands.drop 2 ++ operands.take 2).flatten
        else operands.flatten
termination_by structural tree => tree

/-- The reading orders of several trees. -/
def readings : List Tree -> List (List Tree)
  | [] => []
  | tree :: rest => tree.reading :: readings rest
termination_by structural trees => trees

end

/-- The nodes below a node in reading order. -/
def readingBelow (node : Tree) : List Tree :=
  if node.readsFirstTwoLast then
    ((readings node.children).drop 2 ++ (readings node.children).take 2).flatten
  else
    (readings node.children).flatten

theorem reading_eq (node : Tree) :
    node.reading = node :: node.readingBelow := by
  cases node
  rfl

theorem readings_eq_map (trees : List Tree) : readings trees = trees.map reading := by
  induction trees with
  | nil => rfl
  | cons tree rest restHypothesis => simp [readings, restHypothesis]

theorem readingBelow_perm (node : Tree) :
    node.readingBelow.Perm (node.children.flatMap reading) := by
  unfold readingBelow
  rw [List.flatMap_def, ← readings_eq_map]
  split
  · have swapped :
        ((readings node.children).drop 2 ++ (readings node.children).take 2).Perm
          ((readings node.children).take 2 ++ (readings node.children).drop 2) :=
      List.perm_append_comm
    simpa only [List.take_append_drop] using swapped.flatten
  · exact List.Perm.refl _

/-- Reading order lists the nodes of the tree, each as often as it occurs. -/
theorem reading_perm_preorder (tree : Tree) :
    tree.reading.Perm tree.preorder := by
  induction tree using childInduction with
  | step tree childHypothesis =>
      rw [reading_eq, preorder_eq, preorderAll_eq_flatMap]
      refine .cons tree ((readingBelow_perm tree).trans ?_)
      exact List.Perm.flatMap_left tree.children childHypothesis

/-! ## Blame -/

/-- The first node to blame among nodes, with its error. -/
def firstBlame? (nodes : List Tree) : Option TreeError :=
  nodes.findSome? blame?

@[simp] theorem firstBlame?_nil : firstBlame? [] = none := rfl

@[simp] theorem firstBlame?_append
    (front back : List Tree) :
    firstBlame? (front ++ back) = (firstBlame? front).or (firstBlame? back) :=
  List.findSome?_append

theorem blame?_eq_none_iff (node : Tree) :
    node.blame? = none ↔ node.isPlaceholder = false ∧ node.defect? = none := by
  unfold blame?
  cases node.isPlaceholder <;> simp [fault?_eq_none_iff]

/-- A node of the expected type can be read unless it is to blame. -/
theorem prepare_eq
    {node : Tree}
    {expected : NodeType}
    (typed : node.type = expected) :
    node.prepare expected = verdict node.blame? := by
  unfold prepare blame?
  cases node.isPlaceholder <;> simp [typed, verdict, check]

theorem prepare_of_type_ne
    {node : Tree}
    {expected : NodeType}
    (different : node.type ≠ expected) :
    node.prepare expected = .error (.ofDefect node (.unexpectedType expected node.type)) := by
  rw [prepare, if_pos different]

theorem firstBlame?_reading (node : Tree) :
    firstBlame? node.reading = node.blame?.or (firstBlame? node.readingBelow) := by
  rw [reading_eq, firstBlame?, List.findSome?_cons]
  cases node.blame? <;> rfl

/-- What is read of a node in the slot of a leaf: the node is to blame, or it is a
node without children that carries a leaf of the right kind. -/
theorem leaf_cases
    {kind : LeafKind}
    {node : Tree}
    (accepted : (Slot.leaf kind).accepts node = true) :
    (∃ error, firstBlame? node.reading = some error ∧ node.leaf = .error error) ∨
      (firstBlame? node.reading = none ∧
        ∃ content, content.kind = kind ∧ node.leaf = .ok content) := by
  have typed : node.type = .value := Slot.type_of_accepts accepted
  rw [firstBlame?_reading]
  cases blamed : node.blame? with
  | some error =>
      left
      refine ⟨error, rfl, ?_⟩
      rw [leaf, prepare_eq typed, blamed]
      rfl
  | none =>
      right
      obtain ⟨filled, sound⟩ := (blame?_eq_none_iff node).1 blamed
      obtain ⟨childless, content, carries, tagged⟩ :=
        (defect?_eq_none_iff_of_value typed filled).1 sound
      have sameKind : content.kind = kind := by
        rw [← LeafKind.tag_inj, ← Slot.tag_of_accepts_leaf accepted filled, tagged, Leaf.tag]
      refine ⟨?_, content, sameKind, ?_⟩
      · simp [readingBelow, readsFirstTwoLast, readings, typed, childless]
      · rw [leaf_eq_ok_iff]
        exact ⟨typed, tagged, childless, carries⟩

/-- A reader of leaves of a kind reports the node to blame, if it reads every leaf of
this kind. -/
theorem errorOf?_leaf_bind
    {α : Type}
    {kind : LeafKind}
    {node : Tree}
    {pick : Leaf -> Except TreeError α}
    (accepted : (Slot.leaf kind).accepts node = true)
    (picks : ∀ content : Leaf, content.kind = kind -> errorOf? (pick content) = none) :
    errorOf? (node.leaf >>= pick) = firstBlame? node.reading := by
  rcases leaf_cases accepted with ⟨error, blamed, read⟩ | ⟨blameless, content, sameKind, read⟩
  · rw [blamed, read]
    rfl
  · rw [blameless, read]
    exact picks content sameKind

theorem errorOf?_decodeAsset
    {node : Tree}
    (accepted : (Slot.leaf .asset).accepts node = true) :
    errorOf? node.decodeAsset = firstBlame? node.reading := by
  apply errorOf?_leaf_bind accepted
  intro content sameKind
  cases content <;> simp_all [Leaf.kind]

theorem errorOf?_decodeDecimal
    {node : Tree}
    (accepted : (Slot.leaf .decimal).accepts node = true) :
    errorOf? node.decodeDecimal = firstBlame? node.reading := by
  apply errorOf?_leaf_bind accepted
  intro content sameKind
  cases content <;> simp_all [Leaf.kind]

theorem errorOf?_decodeDate
    {node : Tree}
    (accepted : (Slot.leaf .date).accepts node = true) :
    errorOf? node.decodeDate = firstBlame? node.reading := by
  apply errorOf?_leaf_bind accepted
  intro content sameKind
  cases content <;> simp_all [Leaf.kind]

theorem errorOf?_decodeKey
    {node : Tree}
    (accepted : (Slot.leaf .key).accepts node = true) :
    errorOf? node.decodeKey = firstBlame? node.reading := by
  apply errorOf?_leaf_bind accepted
  intro content sameKind
  cases content <;> simp_all [Leaf.kind]

/-! ## Operands in sequence -/

section Operands

variable {α β γ δ : Type}
variable {left middle right : Tree}
variable {first : Except TreeError α} {second : Except TreeError β} {third : Except TreeError γ}

theorem errorOf?_one
    (leftError : errorOf? first = firstBlame? left.reading)
    (make : α -> δ) :
    errorOf? (make <$> first) = firstBlame? (readings [left]).flatten := by
  rw [errorOf?_map, leftError]
  simp [readings]

theorem errorOf?_two
    (leftError : errorOf? first = firstBlame? left.reading)
    (rightError : errorOf? second = firstBlame? right.reading)
    (make : α -> β -> δ) :
    errorOf? (do
        let left <- first
        let right <- second
        return make left right) =
      firstBlame? (readings [left, right]).flatten := by
  rw [errorOf?_bind fun _ => errorOf?_bind fun _ => errorOf?_pure _, leftError, rightError]
  simp [readings]

theorem errorOf?_three
    (leftError : errorOf? first = firstBlame? left.reading)
    (middleError : errorOf? second = firstBlame? middle.reading)
    (rightError : errorOf? third = firstBlame? right.reading)
    (make : α -> β -> γ -> δ) :
    errorOf? (do
        let left <- first
        let middle <- second
        let right <- third
        return make left middle right) =
      firstBlame? (readings [left, middle, right]).flatten := by
  rw [errorOf?_bind fun _ => errorOf?_bind fun _ => errorOf?_bind fun _ => errorOf?_pure _,
    leftError, middleError, rightError]
  simp [readings]

end Operands

theorem errorOf?_decodeClaims
    {nodes : List Tree}
    (nodeErrors : ∀ node ∈ nodes, errorOf? node.decodeClaim = firstBlame? node.reading) :
    errorOf? (decodeClaims nodes) = firstBlame? (readings nodes).flatten := by
  induction nodes with
  | nil => rfl
  | cons node rest restHypothesis =>
      obtain ⟨nodeError, restErrors⟩ := List.forall_mem_cons.1 nodeErrors
      rw [decodeClaims, errorOf?_bind fun _ => errorOf?_bind fun _ => errorOf?_pure _,
        nodeError, restHypothesis restErrors]
      simp [readings]

theorem errorOf?_decodeElectables
    {nodes : List Tree}
    (nodeErrors : ∀ node ∈ nodes, errorOf? node.decodeClaim = firstBlame? node.reading) :
    errorOf? (decodeElectables nodes) = firstBlame? (readings nodes).flatten := by
  induction nodes with
  | nil => rfl
  | cons node rest restHypothesis =>
      obtain ⟨nodeError, restErrors⟩ := List.forall_mem_cons.1 nodeErrors
      rw [decodeElectables, errorOf?_bind fun _ => errorOf?_bind fun _ => errorOf?_pure _,
        nodeError, restHypothesis restErrors]
      simp [readings]

/-! ## The reported error -/

theorem errorOf?_decodeObservation
    {node : Tree}
    (typed : node.type = .observation) :
    errorOf? node.decodeObservation = firstBlame? node.reading := by
  induction node using childInduction with
  | step node childHypothesis =>
      rw [firstBlame?_reading]
      cases blamed : node.blame? with
      | some error =>
          rcases node with ⟨id, tag, type, children, text, value⟩
          unfold decodeObservation
          simp [prepare_eq typed, blamed, verdict, bind, Except.bind]
      | none =>
          obtain ⟨filled, sound⟩ := (blame?_eq_none_iff node).1 blamed
          obtain ⟨bare, observationTag, named, fits⟩ :=
            (defect?_eq_none_iff_of_observation typed filled).1 sound
          rcases node with ⟨id, tag, type, children, text, value⟩
          subst typed bare named
          have operandError {operand : Tree} (present : operand ∈ children)
              (accepted : Slot.observation.accepts operand = true) :
              errorOf? operand.decodeObservation = firstBlame? operand.reading :=
            childHypothesis operand present (Slot.type_of_accepts accepted)
          change _ = firstBlame? (readings children).flatten
          cases observationTag with
          | const =>
              obtain ⟨number, accepted, rfl⟩ := (Signature.fits_one _ children).1 fits
              rw [decodeObservation_const fits]
              exact errorOf?_one (errorOf?_decodeDecimal accepted) _
          | observe =>
              obtain ⟨key, accepted, rfl⟩ := (Signature.fits_one _ children).1 fits
              rw [decodeObservation_observe fits]
              exact errorOf?_one (errorOf?_decodeKey accepted) _
          | observeAt =>
              obtain ⟨key, date, keyAccepted, dateAccepted, rfl⟩ :=
                (Signature.fits_two _ _ children).1 fits
              rw [decodeObservation_observeAt fits]
              exact errorOf?_two (errorOf?_decodeKey keyAccepted)
                (errorOf?_decodeDate dateAccepted) _
          | neg =>
              obtain ⟨operand, accepted, rfl⟩ := (Signature.fits_one _ children).1 fits
              rw [decodeObservation_neg fits]
              exact errorOf?_one (operandError (by simp) accepted) _
          | add =>
              obtain ⟨left, right, leftAccepted, rightAccepted, rfl⟩ :=
                (Signature.fits_two _ _ children).1 fits
              rw [decodeObservation_add fits]
              exact errorOf?_two (operandError (by simp) leftAccepted)
                (operandError (by simp) rightAccepted) _
          | sub =>
              obtain ⟨left, right, leftAccepted, rightAccepted, rfl⟩ :=
                (Signature.fits_two _ _ children).1 fits
              rw [decodeObservation_sub fits]
              exact errorOf?_two (operandError (by simp) leftAccepted)
                (operandError (by simp) rightAccepted) _
          | mul =>
              obtain ⟨left, right, leftAccepted, rightAccepted, rfl⟩ :=
                (Signature.fits_two _ _ children).1 fits
              rw [decodeObservation_mul fits]
              exact errorOf?_two (operandError (by simp) leftAccepted)
                (operandError (by simp) rightAccepted) _
          | div =>
              obtain ⟨left, right, leftAccepted, rightAccepted, rfl⟩ :=
                (Signature.fits_two _ _ children).1 fits
              rw [decodeObservation_div fits]
              exact errorOf?_two (operandError (by simp) leftAccepted)
                (operandError (by simp) rightAccepted) _

theorem errorOf?_decodeInequality
    {node : Tree}
    (typed : node.type = .inequality) :
    errorOf? node.decodeInequality = firstBlame? node.reading := by
  rw [firstBlame?_reading]
  cases blamed : node.blame? with
  | some error =>
      unfold decodeInequality
      simp [prepare_eq typed, blamed, verdict, bind, Except.bind]
  | none =>
      obtain ⟨filled, sound⟩ := (blame?_eq_none_iff node).1 blamed
      obtain ⟨bare, inequalityTag, named, fits⟩ :=
        (defect?_eq_none_iff_of_inequality typed filled).1 sound
      rcases node with ⟨id, tag, type, children, text, value⟩
      subst typed bare named
      change _ = firstBlame? (readings children).flatten
      cases inequalityTag with
      | timeGte =>
          obtain ⟨date, accepted, rfl⟩ := (Signature.fits_one _ children).1 fits
          rw [decodeInequality_timeGte fits]
          exact errorOf?_one (errorOf?_decodeDate accepted) _
      | timeLte =>
          obtain ⟨date, accepted, rfl⟩ := (Signature.fits_one _ children).1 fits
          rw [decodeInequality_timeLte fits]
          exact errorOf?_one (errorOf?_decodeDate accepted) _
      | lte =>
          obtain ⟨left, right, leftAccepted, rightAccepted, rfl⟩ :=
            (Signature.fits_two _ _ children).1 fits
          rw [decodeInequality_lte fits]
          exact errorOf?_two
            (errorOf?_decodeObservation (Slot.type_of_accepts leftAccepted))
            (errorOf?_decodeObservation (Slot.type_of_accepts rightAccepted)) _

theorem errorOf?_decodeClaim
    {node : Tree}
    (typed : node.type = .claim) :
    errorOf? node.decodeClaim = firstBlame? node.reading := by
  induction node using childInduction with
  | step node childHypothesis =>
      rw [firstBlame?_reading]
      cases blamed : node.blame? with
      | some error =>
          rcases node with ⟨id, tag, type, children, text, value⟩
          unfold decodeClaim
          simp [prepare_eq typed, blamed, verdict, bind, Except.bind]
      | none =>
          obtain ⟨filled, sound⟩ := (blame?_eq_none_iff node).1 blamed
          obtain ⟨bare, claimTag, named, fits⟩ :=
            (defect?_eq_none_iff_of_claim typed filled).1 sound
          rcases node with ⟨id, tag, type, children, text, value⟩
          subst typed bare named
          have operandError {operand : Tree} (present : operand ∈ children)
              (accepted : Slot.claim.accepts operand = true) :
              errorOf? operand.decodeClaim = firstBlame? operand.reading :=
            childHypothesis operand present (Slot.type_of_accepts accepted)
          have predicateError {predicate : Tree}
              (accepted : Slot.inequality.accepts predicate = true) :
              errorOf? predicate.decodeInequality = firstBlame? predicate.reading :=
            errorOf?_decodeInequality (Slot.type_of_accepts accepted)
          cases claimTag with
          | zero =>
              obtain rfl := List.forall₂_nil_left_iff.1 fits
              rw [decodeClaim_zero]
              rfl
          | one =>
              obtain ⟨asset, accepted, rfl⟩ := (Signature.fits_one _ children).1 fits
              rw [decodeClaim_one fits]
              exact errorOf?_one (errorOf?_decodeAsset accepted) _
          | give =>
              obtain ⟨claim, accepted, rfl⟩ := (Signature.fits_one _ children).1 fits
              rw [decodeClaim_give fits]
              exact errorOf?_one (operandError (by simp) accepted) _
          | cond =>
              obtain ⟨predicate, success, failure, predicateAccepted, successAccepted,
                failureAccepted, rfl⟩ := (Signature.fits_three _ _ _ children).1 fits
              rw [decodeClaim_cond fits]
              exact errorOf?_three (predicateError predicateAccepted)
                (operandError (by simp) successAccepted)
                (operandError (by simp) failureAccepted) _
          | scale =>
              obtain ⟨factor, claim, factorAccepted, accepted, rfl⟩ :=
                (Signature.fits_two _ _ children).1 fits
              rw [decodeClaim_scale fits]
              exact errorOf?_two
                (errorOf?_decodeObservation (Slot.type_of_accepts factorAccepted))
                (operandError (by simp) accepted) _
          | whenHolds =>
              obtain ⟨predicate, claim, predicateAccepted, accepted, rfl⟩ :=
                (Signature.fits_two _ _ children).1 fits
              rw [decodeClaim_whenHolds fits]
              exact errorOf?_two (predicateError predicateAccepted)
                (operandError (by simp) accepted) _
          | untilHolds =>
              obtain ⟨predicate, claim, predicateAccepted, accepted, rfl⟩ :=
                (Signature.fits_two _ _ children).1 fits
              rw [decodeClaim_untilHolds fits]
              exact errorOf?_two (predicateError predicateAccepted)
                (operandError (by simp) accepted) _
          | anytime =>
              obtain ⟨predicate, alternative, predicateAccepted, accepted, rfl⟩ :=
                (Signature.fits_two _ _ children).1 fits
              rw [decodeClaim_anytime fits]
              exact errorOf?_two (predicateError predicateAccepted)
                (operandError (by simp) accepted) _
          | and =>
              obtain ⟨first, second, others, rfl⟩ := Signature.fits_atLeastTwo fits
              have accepted := fits.2
              have othersError :
                  errorOf? (decodeClaims others) = firstBlame? (readings others).flatten :=
                errorOf?_decodeClaims fun operand present =>
                  operandError (by simp [present]) (accepted operand (by simp [present]))
              rw [decodeClaim_and fits,
                errorOf?_bind fun _ => errorOf?_bind fun _ => errorOf?_bind fun _ =>
                  errorOf?_pure _,
                othersError, operandError (by simp) (accepted first (by simp)),
                operandError (by simp) (accepted second (by simp))]
              simp [readingBelow, readsFirstTwoLast, readings]
          | or =>
              obtain ⟨first, second, others, rfl⟩ := Signature.fits_atLeastTwo fits
              have accepted := fits.2
              have othersError :
                  errorOf? (decodeElectables others) = firstBlame? (readings others).flatten :=
                errorOf?_decodeElectables fun operand present =>
                  operandError (by simp [present]) (accepted operand (by simp [present]))
              rw [decodeClaim_or fits,
                errorOf?_bind fun _ => errorOf?_bind fun _ => errorOf?_bind fun _ =>
                  errorOf?_pure _,
                othersError, operandError (by simp) (accepted first (by simp)),
                operandError (by simp) (accepted second (by simp))]
              simp [readingBelow, readsFirstTwoLast, readings]

end Tree
end ContingentClaims
