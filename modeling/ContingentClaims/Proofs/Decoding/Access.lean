import ContingentClaims.Proofs.Decoding.Agreement

/-!
# Reading by position

A reader may go by the tag of a node alone, take the operands of the term from their
positions without looking whether there are any, and read what it takes as what it should
be. Such a reader (`accessClaim`, `accessObservation`, `accessInequality`) has more ways to
end: it takes a child that does not exist, or it comes to a case that is there for
completeness only. The check of each node before it is read excludes all of them, so on
every tree whatsoever this reader is the decoder (`accessClaim_eq`).
-/

namespace ContingentClaims

/-- How a reading by position may end without a term. -/
inductive Halt
  /-- An error of the tree is reported. -/
  | reported (error : TreeError)
  /-- A child is taken that does not exist. -/
  | noChild (position : Nat)
  /-- The children from a position on are taken, and the position lies behind the last. -/
  | noSlice (position : Nat)
  /-- The reader comes to a case that is there for completeness only. -/
  | fallback (defect : Defect)

/-- The result of a reading by position. -/
abbrev Access (α : Type) : Type :=
  Except Halt α

/-- The result of a reader that reports all of its errors. -/
def Access.report
    {α : Type}
    (result : Except TreeError α) : Access α :=
  result.mapError .reported

namespace Tree

/-- Read the child at a position. -/
def withChild
    {α : Type}
    (node : Tree)
    (position : Nat)
    (read : (child : Tree) -> child ∈ node.children -> Access α) : Access α :=
  match found : node.children[position]? with
  | some child => read child (List.mem_of_getElem? found)
  | none => .error (.noChild position)

/-- Read the children from a position on, one after the other. -/
def withChildrenFrom
    {α : Type}
    (node : Tree)
    (position : Nat)
    (read : (child : Tree) -> child ∈ node.children -> Access α) : Access (List α) :=
  if position ≤ node.children.length then
    (node.children.attach.drop position).mapM fun child => read child.1 child.2
  else
    .error (.noSlice position)

theorem sizeOf_lt_of_mem_children
    {node child : Tree}
    (present : child ∈ node.children) :
    sizeOf child < sizeOf node := by
  have := List.sizeOf_lt_of_mem present
  cases node
  simp only [mk.sizeOf_spec]
  simp at this
  omega

/-! ## The readers -/

/-- The leaf of a value node. -/
def accessLeaf (node : Tree) : Access Leaf := do
  Access.report (node.prepare .value)
  match node.value with
  | some leaf => .ok leaf
  | none => .error (.fallback .emptyLeaf)

/-- The content of a value node that should carry a leaf of a kind. -/
def accessContent
    {α : Type}
    (kind : LeafKind)
    (content? : Leaf -> Option α)
    (node : Tree) : Access α := do
  match content? (<- node.accessLeaf) with
  | some content => .ok content
  | none => .error (.fallback (.unexpectedLeaf kind))

/-- The asset that a value node should carry. -/
def accessAsset : Tree -> Access Asset :=
  accessContent .asset fun
    | .asset content => some content
    | _ => none

/-- The number that a value node should carry. -/
def accessDecimal : Tree -> Access Decimal :=
  accessContent .decimal fun
    | .decimal content => some content
    | _ => none

/-- The date that a value node should carry. -/
def accessDate : Tree -> Access Date :=
  accessContent .date fun
    | .date content => some content
    | _ => none

/-- The observable key that a value node should carry. -/
def accessKey : Tree -> Access String :=
  accessContent .key fun
    | .key content => some content
    | _ => none

/-- The alternative of a node whose claim is read as given. -/
def accessElectable
    (node : Tree)
    (claim : Access Claim) : Access Electable := do
  return .mk node.electableLabel (<- claim)

/-- Read an observation by its tag. -/
def accessObservation (node : Tree) : Access Observation := do
  Access.report (node.prepare .observation)
  match ObservationTag.ofName? node.tag with
  | some .const => return .const (<- node.withChild 0 fun number _ => number.accessDecimal)
  | some .observe => return .observe (<- node.withChild 0 fun key _ => key.accessKey)
  | some .observeAt =>
      return .observeAt (<- node.withChild 0 fun key _ => key.accessKey)
        (<- node.withChild 1 fun date _ => date.accessDate)
  | some .add => do
      let left <- node.withChild 0 fun left _ => left.accessObservation
      let right <- node.withChild 1 fun right _ => right.accessObservation
      return if node.text = some differenceMark then .sub left right else .add left right
  | some .sub =>
      return .sub (<- node.withChild 0 fun left _ => left.accessObservation)
        (<- node.withChild 1 fun right _ => right.accessObservation)
  | some .neg => return .neg (<- node.withChild 0 fun operand _ => operand.accessObservation)
  | some .mul =>
      return .mul (<- node.withChild 0 fun left _ => left.accessObservation)
        (<- node.withChild 1 fun right _ => right.accessObservation)
  | some .div =>
      return .div (<- node.withChild 0 fun left _ => left.accessObservation)
        (<- node.withChild 1 fun right _ => right.accessObservation)
  | none => .error (.fallback (.unreadable .observation))
termination_by sizeOf node
decreasing_by all_goals exact sizeOf_lt_of_mem_children (by assumption)

/-- Read an inequality by its tag. -/
def accessInequality (node : Tree) : Access Inequality := do
  Access.report (node.prepare .inequality)
  match InequalityTag.ofName? node.tag with
  | some .timeGte => return .timeGte (<- node.withChild 0 fun date _ => date.accessDate)
  | some .timeLte => return .timeLte (<- node.withChild 0 fun date _ => date.accessDate)
  | some .lte =>
      return .lte (<- node.withChild 0 fun left _ => left.accessObservation)
        (<- node.withChild 1 fun right _ => right.accessObservation)
  | none => .error (.fallback (.unreadable .inequality))

/-- Read a claim by its tag. The operands of a conjunction or a choice behind the first two
are taken before these. -/
def accessClaim (node : Tree) : Access Claim := do
  Access.report (node.prepare .claim)
  match ClaimTag.ofName? node.tag with
  | some .zero => return .zero
  | some .one => return .one (<- node.withChild 0 fun asset _ => asset.accessAsset)
  | some .give => return .give (<- node.withChild 0 fun claim _ => claim.accessClaim)
  | some .and => do
      let others <- node.withChildrenFrom 2 fun claim _ => claim.accessClaim
      return .and (<- node.withChild 0 fun claim _ => claim.accessClaim)
        (<- node.withChild 1 fun claim _ => claim.accessClaim) others
  | some .or => do
      let others <- node.withChildrenFrom 2 fun alternative _ =>
        alternative.accessElectable alternative.accessClaim
      let first <- node.withChild 0 fun alternative _ =>
        alternative.accessElectable alternative.accessClaim
      let second <- node.withChild 1 fun alternative _ =>
        alternative.accessElectable alternative.accessClaim
      return .or first second others
  | some .cond =>
      return .cond (<- node.withChild 0 fun predicate _ => predicate.accessInequality)
        (<- node.withChild 1 fun claim _ => claim.accessClaim)
        (<- node.withChild 2 fun claim _ => claim.accessClaim)
  | some .scale =>
      return .scale (<- node.withChild 0 fun factor _ => factor.accessObservation)
        (<- node.withChild 1 fun claim _ => claim.accessClaim)
  | some .whenHolds =>
      return .whenHolds (<- node.withChild 0 fun predicate _ => predicate.accessInequality)
        (<- node.withChild 1 fun claim _ => claim.accessClaim)
  | some .untilHolds =>
      return .untilHolds (<- node.withChild 0 fun predicate _ => predicate.accessInequality)
        (<- node.withChild 1 fun claim _ => claim.accessClaim)
  | some .anytime =>
      return .anytime (<- node.withChild 0 fun predicate _ => predicate.accessInequality)
        (<- node.withChild 1 fun alternative _ =>
          alternative.accessElectable alternative.accessClaim)
  | none => .error (.fallback (.unreadable .claim))
termination_by sizeOf node
decreasing_by all_goals exact sizeOf_lt_of_mem_children (by assumption)

/-! ## Sequences of readings -/

end Tree

namespace Access

variable {α β γ δ : Type}
variable {left : Access α} {middle : Access β} {right : Access γ}
variable {first : Except TreeError α} {second : Except TreeError β} {third : Except TreeError γ}

theorem report_one
    (sameFirst : left = report first)
    (make : α -> δ) :
    (do
      let left <- left
      return make left) = report (make <$> first) := by
  subst sameFirst
  cases first <;> rfl

theorem report_two
    (sameFirst : left = report first)
    (sameSecond : middle = report second)
    (make : α -> β -> δ) :
    (do
      let left <- left
      let middle <- middle
      return make left middle) =
      report (do
        let left <- first
        let middle <- second
        return make left middle) := by
  subst sameFirst sameSecond
  cases first <;> cases second <;> rfl

theorem report_three
    (sameFirst : left = report first)
    (sameSecond : middle = report second)
    (sameThird : right = report third)
    (make : α -> β -> γ -> δ) :
    (do
      let left <- left
      let middle <- middle
      let right <- right
      return make left middle right) =
      report (do
        let left <- first
        let middle <- second
        let right <- third
        return make left middle right) := by
  subst sameFirst sameSecond sameThird
  cases first <;> cases second <;> cases third <;> rfl

end Access

namespace Tree

open Access

/-! ## Nothing is missing -/

theorem accessLeaf_eq (node : Tree) : node.accessLeaf = report node.leaf := by
  rw [accessLeaf, leaf]
  cases ready : node.prepare .value with
  | error error => rfl
  | ok passed =>
      obtain ⟨typed, filled, sound⟩ := (prepare_eq_ok_iff node .value).1 ready
      obtain ⟨_, content, carries, _⟩ := (defect?_eq_none_iff_of_value typed filled).1 sound
      rw [carries]
      rfl

/-- The content of a node in the slot of a leaf is of the kind of the slot. -/
theorem accessContent_eq
    {α : Type}
    {kind : LeafKind}
    {content? : Leaf -> Option α}
    {decode : Leaf -> Except TreeError α}
    {node : Tree}
    (accepted : (Slot.leaf kind).accepts node = true)
    (decodes : ∀ content : Leaf, content.kind = kind ->
      ∃ value, content? content = some value ∧ decode content = .ok value) :
    accessContent kind content? node = report (node.leaf >>= decode) := by
  rw [accessContent, accessLeaf_eq]
  rcases leaf_cases accepted with ⟨error, _, read⟩ | ⟨_, content, sameKind, read⟩
  · rw [read]
    rfl
  · obtain ⟨value, found, decoded⟩ := decodes content sameKind
    rw [read]
    change (match content? content with
      | some value => Except.ok value
      | none => .error (.fallback (.unexpectedLeaf kind))) = report (decode content)
    rw [found, decoded]
    rfl

theorem accessAsset_eq
    {node : Tree}
    (accepted : (Slot.leaf .asset).accepts node = true) :
    node.accessAsset = report node.decodeAsset := by
  apply accessContent_eq accepted
  intro content sameKind
  cases content <;> simp_all [Leaf.kind]

theorem accessDecimal_eq
    {node : Tree}
    (accepted : (Slot.leaf .decimal).accepts node = true) :
    node.accessDecimal = report node.decodeDecimal := by
  apply accessContent_eq accepted
  intro content sameKind
  cases content <;> simp_all [Leaf.kind]

theorem accessDate_eq
    {node : Tree}
    (accepted : (Slot.leaf .date).accepts node = true) :
    node.accessDate = report node.decodeDate := by
  apply accessContent_eq accepted
  intro content sameKind
  cases content <;> simp_all [Leaf.kind]

theorem accessKey_eq
    {node : Tree}
    (accepted : (Slot.leaf .key).accepts node = true) :
    node.accessKey = report node.decodeKey := by
  apply accessContent_eq accepted
  intro content sameKind
  cases content <;> simp_all [Leaf.kind]

/-- An observation is read by position as it is decoded. -/
theorem accessObservation_eq (node : Tree) :
    node.accessObservation = report node.decodeObservation := by
  induction node using childInduction with
  | step node childHypothesis =>
      cases ready : node.prepare .observation with
      | error error =>
          rcases node with ⟨id, tag, type, children, text, value⟩
          rw [accessObservation, ready]
          unfold decodeObservation
          simp only [ready]
          rfl
      | ok passed =>
          obtain ⟨typed, filled, sound⟩ := (prepare_eq_ok_iff node .observation).1 ready
          obtain ⟨bare, tag, named, fits⟩ :=
            (defect?_eq_none_iff_of_observation typed filled).1 sound
          rcases node with ⟨id, name, type, children, text, value⟩
          subst typed bare named
          rw [accessObservation, ready]
          cases tag with
          | const =>
              obtain ⟨number, accepted, rfl⟩ := (Signature.fits_one _ children).1 fits
              rw [decodeObservation_const fits]
              exact report_one (accessDecimal_eq accepted) _
          | observe =>
              obtain ⟨key, accepted, rfl⟩ := (Signature.fits_one _ children).1 fits
              rw [decodeObservation_observe fits]
              exact report_one (accessKey_eq accepted) _
          | observeAt =>
              obtain ⟨key, date, keyAccepted, dateAccepted, rfl⟩ :=
                (Signature.fits_two _ _ children).1 fits
              rw [decodeObservation_observeAt fits]
              exact report_two (accessKey_eq keyAccepted) (accessDate_eq dateAccepted) _
          | neg =>
              obtain ⟨operand, _, rfl⟩ := (Signature.fits_one _ children).1 fits
              rw [decodeObservation_neg fits]
              exact report_one (childHypothesis operand (by simp)) _
          | add =>
              obtain ⟨left, right, _, _, rfl⟩ := (Signature.fits_two _ _ children).1 fits
              rw [decodeObservation_add fits]
              exact report_two (childHypothesis left (by simp))
                (childHypothesis right (by simp)) _
          | sub =>
              obtain ⟨left, right, _, _, rfl⟩ := (Signature.fits_two _ _ children).1 fits
              rw [decodeObservation_sub fits]
              exact report_two (childHypothesis left (by simp))
                (childHypothesis right (by simp)) _
          | mul =>
              obtain ⟨left, right, _, _, rfl⟩ := (Signature.fits_two _ _ children).1 fits
              rw [decodeObservation_mul fits]
              exact report_two (childHypothesis left (by simp))
                (childHypothesis right (by simp)) _
          | div =>
              obtain ⟨left, right, _, _, rfl⟩ := (Signature.fits_two _ _ children).1 fits
              rw [decodeObservation_div fits]
              exact report_two (childHypothesis left (by simp))
                (childHypothesis right (by simp)) _

/-- An inequality is read by position as it is decoded. -/
theorem accessInequality_eq (node : Tree) :
    node.accessInequality = report node.decodeInequality := by
  cases ready : node.prepare .inequality with
  | error error =>
      rw [accessInequality, decodeInequality, ready]
      rfl
  | ok passed =>
      obtain ⟨typed, filled, sound⟩ := (prepare_eq_ok_iff node .inequality).1 ready
      obtain ⟨bare, tag, named, fits⟩ :=
        (defect?_eq_none_iff_of_inequality typed filled).1 sound
      rcases node with ⟨id, name, type, children, text, value⟩
      subst typed bare named
      rw [accessInequality, ready]
      cases tag with
      | timeGte =>
          obtain ⟨date, accepted, rfl⟩ := (Signature.fits_one _ children).1 fits
          rw [decodeInequality_timeGte fits]
          exact report_one (accessDate_eq accepted) _
      | timeLte =>
          obtain ⟨date, accepted, rfl⟩ := (Signature.fits_one _ children).1 fits
          rw [decodeInequality_timeLte fits]
          exact report_one (accessDate_eq accepted) _
      | lte =>
          obtain ⟨left, right, _, _, rfl⟩ := (Signature.fits_two _ _ children).1 fits
          rw [decodeInequality_lte fits]
          exact report_two (accessObservation_eq left) (accessObservation_eq right) _

/-- Children that exist are read one after the other. -/
theorem withChildrenFrom_eq
    {α : Type}
    {node : Tree}
    {position : Nat}
    (enough : position ≤ node.children.length)
    (read : Tree -> Access α) :
    node.withChildrenFrom position (fun child _ => read child) =
      (node.children.drop position).mapM read := by
  have values : (node.children.attach.drop position).map (·.1) = node.children.drop position := by
    rw [List.map_drop, List.attach_map_subtype_val]
  rw [withChildrenFrom, if_pos enough, ← values, List.mapM_map]
  rfl

theorem mapM_accessClaim
    {nodes : List Tree}
    (same : ∀ node ∈ nodes, node.accessClaim = report node.decodeClaim) :
    nodes.mapM accessClaim = report (decodeClaims nodes) := by
  induction nodes with
  | nil => rfl
  | cons node rest restHypothesis =>
      obtain ⟨sameNode, sameRest⟩ := List.forall_mem_cons.1 same
      rw [List.mapM_cons, decodeClaims]
      exact report_two sameNode (restHypothesis sameRest) _

theorem accessElectable_eq
    {node : Tree}
    (same : node.accessClaim = report node.decodeClaim) :
    node.accessElectable node.accessClaim =
      report (.mk node.electableLabel <$> node.decodeClaim) :=
  report_one same _

theorem mapM_accessElectable
    {nodes : List Tree}
    (same : ∀ node ∈ nodes, node.accessClaim = report node.decodeClaim) :
    (nodes.mapM fun node => node.accessElectable node.accessClaim) =
      report (decodeElectables nodes) := by
  induction nodes with
  | nil => rfl
  | cons node rest restHypothesis =>
      obtain ⟨sameNode, sameRest⟩ := List.forall_mem_cons.1 same
      rw [List.mapM_cons, accessElectable_eq sameNode, restHypothesis sameRest, decodeElectables]
      cases node.decodeClaim with
      | error error => rfl
      | ok claim => cases decodeElectables rest <;> rfl

/-- A claim is read by position as it is decoded. -/
theorem accessClaim_eq (node : Tree) : node.accessClaim = report node.decodeClaim := by
  induction node using childInduction with
  | step node childHypothesis =>
      cases ready : node.prepare .claim with
      | error error =>
          rcases node with ⟨id, tag, type, children, text, value⟩
          rw [accessClaim, ready]
          unfold decodeClaim
          simp only [ready]
          rfl
      | ok passed =>
          obtain ⟨typed, filled, sound⟩ := (prepare_eq_ok_iff node .claim).1 ready
          obtain ⟨bare, tag, named, fits⟩ :=
            (defect?_eq_none_iff_of_claim typed filled).1 sound
          rcases node with ⟨id, name, type, children, text, value⟩
          subst typed bare named
          rw [accessClaim, ready]
          cases tag with
          | zero =>
              obtain rfl := List.forall₂_nil_left_iff.1 fits
              rw [decodeClaim_zero]
              rfl
          | one =>
              obtain ⟨asset, accepted, rfl⟩ := (Signature.fits_one _ children).1 fits
              rw [decodeClaim_one fits]
              exact report_one (accessAsset_eq accepted) _
          | give =>
              obtain ⟨claim, _, rfl⟩ := (Signature.fits_one _ children).1 fits
              rw [decodeClaim_give fits]
              exact report_one (childHypothesis claim (by simp)) _
          | and =>
              obtain ⟨first, second, others, rfl⟩ := Signature.fits_atLeastTwo fits
              rw [decodeClaim_and fits]
              have othersRead :
                  withChildrenFrom ⟨id, ClaimTag.and.name, .claim, first :: second :: others,
                    text, none⟩ 2 (fun claim _ => claim.accessClaim) =
                    report (decodeClaims others) := by
                rw [withChildrenFrom_eq (by simp)]
                exact mapM_accessClaim fun node present => childHypothesis node (by simp_all)
              exact report_three othersRead (childHypothesis first (by simp))
                (childHypothesis second (by simp))
                fun others first second => Claim.and first second others
          | or =>
              obtain ⟨first, second, others, rfl⟩ := Signature.fits_atLeastTwo fits
              rw [decodeClaim_or fits]
              have othersRead :
                  withChildrenFrom ⟨id, ClaimTag.or.name, .claim, first :: second :: others,
                    text, none⟩ 2 (fun node _ => node.accessElectable node.accessClaim) =
                    report (decodeElectables others) := by
                rw [withChildrenFrom_eq (by simp)]
                exact mapM_accessElectable fun node present => childHypothesis node (by simp_all)
              refine (report_three othersRead
                (accessElectable_eq (childHypothesis first (by simp)))
                (accessElectable_eq (childHypothesis second (by simp)))
                fun others first second => Claim.or first second others).trans ?_
              simp only [bind_map_left]
          | cond =>
              obtain ⟨predicate, success, failure, _, _, _, rfl⟩ :=
                (Signature.fits_three _ _ _ children).1 fits
              rw [decodeClaim_cond fits]
              exact report_three (accessInequality_eq predicate)
                (childHypothesis success (by simp)) (childHypothesis failure (by simp)) _
          | scale =>
              obtain ⟨factor, claim, _, _, rfl⟩ := (Signature.fits_two _ _ children).1 fits
              rw [decodeClaim_scale fits]
              exact report_two (accessObservation_eq factor) (childHypothesis claim (by simp)) _
          | whenHolds =>
              obtain ⟨predicate, claim, _, _, rfl⟩ := (Signature.fits_two _ _ children).1 fits
              rw [decodeClaim_whenHolds fits]
              exact report_two (accessInequality_eq predicate)
                (childHypothesis claim (by simp)) _
          | untilHolds =>
              obtain ⟨predicate, claim, _, _, rfl⟩ := (Signature.fits_two _ _ children).1 fits
              rw [decodeClaim_untilHolds fits]
              exact report_two (accessInequality_eq predicate)
                (childHypothesis claim (by simp)) _
          | anytime =>
              obtain ⟨predicate, alternative, _, _, rfl⟩ :=
                (Signature.fits_two _ _ children).1 fits
              rw [decodeClaim_anytime fits]
              refine (report_two (accessInequality_eq predicate)
                (accessElectable_eq (childHypothesis alternative (by simp))) _).trans ?_
              simp only [bind_map_left]

end Tree

/-! ## Errors that are never reported -/

/-- Whether a defect is there for the completeness of a match only. -/
def Defect.isFallback : Defect -> Bool
  | unexpectedLeaf _ => true
  | emptyLeaf => true
  | unreadable _ => true
  | _ => false

/-- Whether an error is there for the completeness of a match only. -/
def TreeError.isFallback : TreeError -> Bool
  | incomplete _ _ => false
  | invalid _ _ defect => defect.isFallback

namespace Tree

theorem isFallback_of_operandDefect?
    {position : Nat}
    {slot : Slot}
    {operand : Tree}
    {defect : Defect}
    (found : operandDefect? position slot operand = some defect) :
    defect.isFallback = false := by
  unfold operandDefect? at found
  grind [Defect.isFallback]

theorem isFallback_of_operandsDefect?
    {position : Nat}
    {operands : List (Slot × Tree)}
    {defect : Defect}
    (found : operandsDefect? position operands = some defect) :
    defect.isFallback = false := by
  induction operands generalizing position with
  | nil => cases found
  | cons first rest restHypothesis =>
      rw [operandsDefect?, Option.or_eq_some_iff] at found
      rcases found with here | ⟨_, behind⟩
      · exact isFallback_of_operandDefect? here
      · exact restHypothesis behind

theorem isFallback_of_signatureDefect?
    {node : Tree}
    {signature : Signature}
    {defect : Defect}
    (found : node.signatureDefect? signature = some defect) :
    defect.isFallback = false := by
  cases signature with
  | leaf kind =>
      unfold signatureDefect? at found
      grind [Defect.isFallback]
  | fixed slots =>
      rw [signatureDefect?] at found
      split at found
      · obtain rfl := Option.some.inj found
        rfl
      · exact isFallback_of_operandsDefect? found
  | variadic slot least =>
      rw [signatureDefect?] at found
      split at found
      · obtain rfl := Option.some.inj found
        rfl
      · exact isFallback_of_operandsDefect? found

theorem isFallback_of_defect?
    {node : Tree}
    {defect : Defect}
    (found : node.defect? = some defect) :
    defect.isFallback = false := by
  unfold defect? at found
  cases known : Signature.of? node.type node.tag with
  | none => grind [Defect.isFallback]
  | some signature =>
      have sound (found : node.signatureDefect? signature = some defect) :
          defect.isFallback = false := isFallback_of_signatureDefect? found
      grind [Defect.isFallback]

/-- The check of a node has other words for what it finds. -/
theorem isFallback_of_blame?
    {node : Tree}
    {error : TreeError}
    (blamed : node.blame? = some error) :
    error.isFallback = false := by
  unfold blame? at blamed
  split at blamed
  · obtain rfl := Option.some.inj blamed
    rfl
  · obtain ⟨defect, found, rfl⟩ := Option.map_eq_some_iff.1 blamed
    exact isFallback_of_defect? found

/-- A reader that reports the first node to blame, or another type than it expects, never
reports a fallback. -/
theorem isFallback_of_errorOf?
    {α : Type}
    {node : Tree}
    {expected : NodeType}
    {result : Except TreeError α}
    {error : TreeError}
    (typed : node.type = expected -> errorOf? result = firstBlame? node.reading)
    (untyped : node.type ≠ expected ->
      result = .error (.ofDefect node (.unexpectedType expected node.type)))
    (failed : result = .error error) :
    error.isFallback = false := by
  by_cases same : node.type = expected
  · have reported := typed same
    rw [failed, errorOf?_error, eq_comm] at reported
    obtain ⟨faulty, _, blamed⟩ := List.exists_of_findSome?_eq_some reported
    exact isFallback_of_blame? blamed
  · rw [untyped same, Except.error.injEq] at failed
    subst failed
    rfl

/-! ## Every tree -/

/-- A tree is read by position as it is decoded, and no fallback is reported of it. -/
structure ReadsSafely (tree : Tree) : Prop where
  claim : tree.accessClaim = Access.report tree.decodeClaim
  observation : tree.accessObservation = Access.report tree.decodeObservation
  inequality : tree.accessInequality = Access.report tree.decodeInequality
  claimError : ∀ error, tree.decodeClaim = .error error -> error.isFallback = false
  observationError : ∀ error, tree.decodeObservation = .error error -> error.isFallback = false
  inequalityError : ∀ error, tree.decodeInequality = .error error -> error.isFallback = false

/-- The operands that the decoders take are there, and their fallbacks are never reached,
whatever the tree is. -/
theorem readsSafely (tree : Tree) : tree.ReadsSafely where
  claim := accessClaim_eq tree
  observation := accessObservation_eq tree
  inequality := accessInequality_eq tree
  claimError _ failed := by
    refine isFallback_of_errorOf? errorOf?_decodeClaim (fun different => ?_) failed
    rcases tree with ⟨id, tag, type, children, text, value⟩
    unfold decodeClaim
    simp only [prepare_of_type_ne different]
    rfl
  observationError _ failed := by
    refine isFallback_of_errorOf? errorOf?_decodeObservation (fun different => ?_) failed
    rcases tree with ⟨id, tag, type, children, text, value⟩
    unfold decodeObservation
    simp only [prepare_of_type_ne different]
    rfl
  inequalityError _ failed := by
    refine isFallback_of_errorOf? errorOf?_decodeInequality (fun different => ?_) failed
    rw [decodeInequality, prepare_of_type_ne different]
    rfl

end Tree
end ContingentClaims
