import ContingentClaims.Proofs.Decoding.Parts
import ContingentClaims.Proofs.Tree.Likeness

/-!
# What reading depends on

Trees that are alike are read alike: to terms that are alike, or with errors that differ at
most in the identifiers in them. So the decoder sees nothing but the shape of a tree
(`seenAlike_of_sameShape`), and the identifiers, distinct or repeated, have no part in what
is read.
-/

namespace ContingentClaims
namespace Tree

/-! ## Terms -/

namespace Alike

variable {same : Decimal -> Decimal -> Prop} {left right : Tree}

/-- What is alike to a node without a leaf is such a node over children that are alike. -/
theorem exists_node
    {id : NodeId}
    {tag : String}
    {type : NodeType}
    {children : List Tree}
    {text : Option String}
    (alike : Tree.Alike same ⟨id, tag, type, children, text, none⟩ right) :
    ∃ other others, right = ⟨other, tag, type, others, text, none⟩ ∧
      List.Forall₂ (Tree.Alike same) children others := by
  have tagged := alike.tag_eq
  have typed := alike.type_eq
  have texted := alike.text_eq
  have bare := alike.isSome_value
  have below := alike.children_rel
  rcases right with ⟨other, tag', type', others, text', value'⟩
  simp only at tagged typed texted bare below
  subst tagged typed texted
  obtain rfl := Option.not_isSome_iff_eq_none.1 (by rw [← bare]; decide)
  exact ⟨other, others, rfl, below⟩

theorem exists_unary
    {id : NodeId}
    {tag : String}
    {type : NodeType}
    {child : Tree}
    {text : Option String}
    (alike : Tree.Alike same ⟨id, tag, type, [child], text, none⟩ right) :
    ∃ otherId other, right = ⟨otherId, tag, type, [other], text, none⟩ ∧
      child.Alike same other := by
  obtain ⟨otherId, others, rfl, below⟩ := alike.exists_node
  rcases below with _ | ⟨childAlike, _ | _⟩
  exact ⟨otherId, _, rfl, childAlike⟩

theorem exists_binary
    {id : NodeId}
    {tag : String}
    {type : NodeType}
    {first second : Tree}
    {text : Option String}
    (alike : Tree.Alike same ⟨id, tag, type, [first, second], text, none⟩ right) :
    ∃ otherId firstOther secondOther,
      right = ⟨otherId, tag, type, [firstOther, secondOther], text, none⟩ ∧
        first.Alike same firstOther ∧ second.Alike same secondOther := by
  obtain ⟨otherId, others, rfl, below⟩ := alike.exists_node
  rcases below with _ | ⟨firstAlike, _ | ⟨secondAlike, _ | _⟩⟩
  exact ⟨otherId, _, _, rfl, firstAlike, secondAlike⟩

theorem exists_leaf
    {content : Leaf}
    (alike : left.Alike same right)
    (read : left.leaf = .ok content) :
    ∃ other, right.leaf = .ok other ∧ content.Alike same other := by
  obtain ⟨typed, tagged, childless, carries⟩ := (leaf_eq_ok_iff left content).1 read
  have below := alike.children_rel
  have related := alike.value_rel
  rw [childless, List.forall₂_nil_left_iff] at below
  rw [carries] at related
  generalize found : right.value = value at related
  cases related with
  | @some _ other leaf =>
      refine ⟨other, (leaf_eq_ok_iff right other).2 ⟨?_, ?_, below, found⟩, leaf⟩
      · rw [← alike.type_eq, typed]
      · rw [← alike.tag_eq, tagged, Leaf.tag, Leaf.tag, leaf.kind]

theorem exists_decimal
    {number : Decimal}
    (alike : left.Alike same right)
    (read : left.decodeDecimal = .ok number) :
    ∃ other, right.decodeDecimal = .ok other ∧ same number other := by
  obtain ⟨_, otherRead, leaf⟩ := alike.exists_leaf ((decodeDecimal_eq_ok_iff _ _).1 read)
  cases leaf with
  | decimal value => exact ⟨_, (decodeDecimal_eq_ok_iff _ _).2 otherRead, value⟩

theorem decodeKey_eq
    {key : String}
    (alike : left.Alike same right)
    (read : left.decodeKey = .ok key) :
    right.decodeKey = .ok key := by
  obtain ⟨_, otherRead, leaf⟩ := alike.exists_leaf ((decodeKey_eq_ok_iff _ _).1 read)
  cases leaf with
  | key => exact (decodeKey_eq_ok_iff _ _).2 otherRead

theorem decodeDate_eq
    {date : Date}
    (alike : left.Alike same right)
    (read : left.decodeDate = .ok date) :
    right.decodeDate = .ok date := by
  obtain ⟨_, otherRead, leaf⟩ := alike.exists_leaf ((decodeDate_eq_ok_iff _ _).1 read)
  cases leaf with
  | date => exact (decodeDate_eq_ok_iff _ _).2 otherRead

theorem decodeAsset_eq
    {asset : Asset}
    (alike : left.Alike same right)
    (read : left.decodeAsset = .ok asset) :
    right.decodeAsset = .ok asset := by
  obtain ⟨_, otherRead, leaf⟩ := alike.exists_leaf ((decodeAsset_eq_ok_iff _ _).1 read)
  cases leaf with
  | asset => exact (decodeAsset_eq_ok_iff _ _).2 otherRead

theorem exists_observation
    {term : Observation}
    (alike : left.Alike same right)
    (nodeRead : left.decodeObservation = .ok term) :
    ∃ other, right.decodeObservation = .ok other ∧ term.Alike same other := by
  induction left using childInduction generalizing right term with
  | step left childHypothesis =>
      cases (decodeObservation_eq_ok_iff left term).1 nodeRead with
      | const read =>
          obtain ⟨_, _, rfl, node⟩ := alike.exists_unary
          obtain ⟨_, otherRead, value⟩ := node.exists_decimal read
          exact ⟨_, decodeObservation_const_eq_ok otherRead, .const value⟩
      | observe read =>
          obtain ⟨_, _, rfl, node⟩ := alike.exists_unary
          exact ⟨_, decodeObservation_observe_eq_ok (node.decodeKey_eq read), .observe _⟩
      | observeAt keyRead dateRead =>
          obtain ⟨_, _, _, rfl, key, date⟩ := alike.exists_binary
          exact ⟨_, decodeObservation_observeAt_eq_ok (key.decodeKey_eq keyRead)
            (date.decodeDate_eq dateRead), .observeAt _ _⟩
      | neg read =>
          obtain ⟨_, _, rfl, node⟩ := alike.exists_unary
          obtain ⟨_, otherRead, operand⟩ := childHypothesis _ (by simp) node read
          exact ⟨_, decodeObservation_neg_eq_ok otherRead, .neg operand⟩
      | add leftRead rightRead =>
          obtain ⟨_, _, _, rfl, leftNode, rightNode⟩ := alike.exists_binary
          obtain ⟨_, leftOther, first⟩ := childHypothesis _ (by simp) leftNode leftRead
          obtain ⟨_, rightOther, second⟩ := childHypothesis _ (by simp) rightNode rightRead
          split
          next marked =>
            subst marked
            exact ⟨_, decodeObservation_difference_eq_ok leftOther rightOther,
              .add first (.neg second)⟩
          next unmarked =>
            exact ⟨_, decodeObservation_add_eq_ok unmarked leftOther rightOther,
              .add first second⟩
      | sub leftRead rightRead =>
          obtain ⟨_, _, _, rfl, leftNode, rightNode⟩ := alike.exists_binary
          obtain ⟨_, leftOther, first⟩ := childHypothesis _ (by simp) leftNode leftRead
          obtain ⟨_, rightOther, second⟩ := childHypothesis _ (by simp) rightNode rightRead
          exact ⟨_, decodeObservation_sub_eq_ok leftOther rightOther, .add first (.neg second)⟩
      | mul leftRead rightRead =>
          obtain ⟨_, _, _, rfl, leftNode, rightNode⟩ := alike.exists_binary
          obtain ⟨_, leftOther, first⟩ := childHypothesis _ (by simp) leftNode leftRead
          obtain ⟨_, rightOther, second⟩ := childHypothesis _ (by simp) rightNode rightRead
          exact ⟨_, decodeObservation_mul_eq_ok leftOther rightOther, .mul first second⟩
      | div leftRead rightRead =>
          obtain ⟨_, _, _, rfl, leftNode, rightNode⟩ := alike.exists_binary
          obtain ⟨_, leftOther, first⟩ := childHypothesis _ (by simp) leftNode leftRead
          obtain ⟨_, rightOther, second⟩ := childHypothesis _ (by simp) rightNode rightRead
          exact ⟨_, decodeObservation_div_eq_ok leftOther rightOther, .div first second⟩

theorem exists_inequality
    {term : Inequality}
    (alike : left.Alike same right)
    (nodeRead : left.decodeInequality = .ok term) :
    ∃ other, right.decodeInequality = .ok other ∧ term.Alike same other := by
  cases (decodeInequality_eq_ok_iff left term).1 nodeRead with
  | timeGte read =>
      obtain ⟨_, _, rfl, node⟩ := alike.exists_unary
      exact ⟨_, decodeInequality_timeGte_eq_ok (node.decodeDate_eq read), .timeGte _⟩
  | timeLte read =>
      obtain ⟨_, _, rfl, node⟩ := alike.exists_unary
      exact ⟨_, decodeInequality_timeLte_eq_ok (node.decodeDate_eq read), .timeLte _⟩
  | lte leftRead rightRead =>
      obtain ⟨_, _, _, rfl, leftNode, rightNode⟩ := alike.exists_binary
      obtain ⟨_, leftOther, first⟩ := leftNode.exists_observation leftRead
      obtain ⟨_, rightOther, second⟩ := rightNode.exists_observation rightRead
      exact ⟨_, decodeInequality_lte_eq_ok leftOther rightOther, .lte first second⟩

/-- If each node is read like its counterpart, so are all of them. -/
theorem exists_terms
    {Term : Type}
    {reads : Tree -> Term -> Prop}
    {likeness : Term -> Term -> Prop}
    {nodes others : List Tree}
    {terms : List Term}
    (alike : List.Forall₂ (Tree.Alike same) nodes others)
    (read : List.Forall₂ reads nodes terms)
    (each : ∀ node ∈ nodes, ∀ other term, node.Alike same other -> reads node term ->
      ∃ counterpart, reads other counterpart ∧ likeness term counterpart) :
    ∃ counterparts, List.Forall₂ reads others counterparts ∧
      List.Forall₂ likeness terms counterparts := by
  induction read generalizing others with
  | nil =>
      rcases alike with _ | _
      exact ⟨[], .nil, .nil⟩
  | cons first _ restHypothesis =>
      rcases alike with _ | ⟨node, rest⟩
      obtain ⟨here, behind⟩ := List.forall_mem_cons.1 each
      obtain ⟨counterpart, otherRead, termAlike⟩ := here _ _ node first
      obtain ⟨counterparts, othersRead, termsAlike⟩ := restHypothesis rest behind
      exact ⟨_, .cons otherRead othersRead, .cons termAlike termsAlike⟩

/-- A node that is read as an alternative carries the label of its counterpart. -/
theorem exists_electable
    {term : Electable}
    (alike : left.Alike same right)
    (reads : left.ReadsAs term)
    (claims : ∀ claim, left.decodeClaim = .ok claim ->
      ∃ other, right.decodeClaim = .ok other ∧ claim.Alike same other) :
    ∃ other, right.ReadsAs other ∧ term.Alike same other := by
  rcases term with ⟨label, claim⟩
  obtain ⟨labelled, read⟩ := reads
  obtain ⟨other, otherRead, claimAlike⟩ := claims claim read
  refine ⟨.mk label other, ⟨?_, otherRead⟩, .mk label claimAlike⟩
  rw [electableLabel, ← alike.text_eq]
  exact labelled

theorem exists_claim
    {term : Claim}
    (alike : left.Alike same right)
    (nodeRead : left.decodeClaim = .ok term) :
    ∃ other, right.decodeClaim = .ok other ∧ term.Alike same other := by
  induction left using childInduction generalizing right term with
  | step left childHypothesis =>
      cases (decodeClaim_eq_ok_iff left term).1 nodeRead with
      | zero =>
          obtain ⟨_, _, rfl, below⟩ := alike.exists_node
          rcases below with _ | _
          exact ⟨_, decodeClaim_zero, .zero⟩
      | one read =>
          obtain ⟨_, _, rfl, node⟩ := alike.exists_unary
          exact ⟨_, decodeClaim_one_eq_ok (node.decodeAsset_eq read), .one _⟩
      | give read =>
          obtain ⟨_, _, rfl, node⟩ := alike.exists_unary
          obtain ⟨_, otherRead, first⟩ := childHypothesis _ (by simp) node read
          exact ⟨_, decodeClaim_give_eq_ok otherRead, .give first⟩
      | and firstRead secondRead othersRead =>
          obtain ⟨_, _, rfl, below⟩ := alike.exists_node
          rcases below with _ | ⟨firstNode, _ | ⟨secondNode, rest⟩⟩
          obtain ⟨_, firstOther, first⟩ := childHypothesis _ (by simp) firstNode firstRead
          obtain ⟨_, secondOther, second⟩ := childHypothesis _ (by simp) secondNode secondRead
          obtain ⟨_, restOther, others⟩ :=
            exists_terms rest ((decodeClaims_eq_ok_iff _ _).1 othersRead)
              fun node isOther _ _ => childHypothesis node (by simp [isOther])
          exact ⟨_, decodeClaim_and_eq_ok firstOther secondOther
            ((decodeClaims_eq_ok_iff _ _).2 restOther), .and first second others⟩
      | or firstReads secondReads othersRead =>
          obtain ⟨_, _, rfl, below⟩ := alike.exists_node
          rcases below with _ | ⟨firstNode, _ | ⟨secondNode, rest⟩⟩
          obtain ⟨_, firstOther, first⟩ := firstNode.exists_electable firstReads
            fun _ => childHypothesis _ (by simp) firstNode
          obtain ⟨_, secondOther, second⟩ := secondNode.exists_electable secondReads
            fun _ => childHypothesis _ (by simp) secondNode
          obtain ⟨_, restOther, others⟩ :=
            exists_terms rest ((decodeElectables_eq_ok_iff _ _).1 othersRead)
              fun node isOther _ _ alike reads => alike.exists_electable reads
                fun _ => childHypothesis node (by simp [isOther]) alike
          exact ⟨_, decodeClaim_or_eq_ok firstOther secondOther
            ((decodeElectables_eq_ok_iff _ _).2 restOther), .or first second others⟩
      | cond predicateRead successRead failureRead =>
          obtain ⟨_, _, rfl, below⟩ := alike.exists_node
          rcases below with _ | ⟨predicateNode, _ | ⟨successNode, _ | ⟨failureNode, _ | _⟩⟩⟩
          obtain ⟨_, predicateOther, predicate⟩ :=
            predicateNode.exists_inequality predicateRead
          obtain ⟨_, successOther, success⟩ :=
            childHypothesis _ (by simp) successNode successRead
          obtain ⟨_, failureOther, failure⟩ :=
            childHypothesis _ (by simp) failureNode failureRead
          exact ⟨_, decodeClaim_cond_eq_ok predicateOther successOther failureOther,
            .cond predicate success failure⟩
      | scale factorRead read =>
          obtain ⟨_, _, _, rfl, factorNode, node⟩ := alike.exists_binary
          obtain ⟨_, factorOther, factor⟩ := factorNode.exists_observation factorRead
          obtain ⟨_, otherRead, claim⟩ := childHypothesis _ (by simp) node read
          exact ⟨_, decodeClaim_scale_eq_ok factorOther otherRead, .scale factor claim⟩
      | whenHolds predicateRead read =>
          obtain ⟨_, _, _, rfl, predicateNode, node⟩ := alike.exists_binary
          obtain ⟨_, predicateOther, predicate⟩ :=
            predicateNode.exists_inequality predicateRead
          obtain ⟨_, otherRead, claim⟩ := childHypothesis _ (by simp) node read
          exact ⟨_, decodeClaim_whenHolds_eq_ok predicateOther otherRead,
            .whenHolds predicate claim⟩
      | untilHolds predicateRead read =>
          obtain ⟨_, _, _, rfl, predicateNode, node⟩ := alike.exists_binary
          obtain ⟨_, predicateOther, predicate⟩ :=
            predicateNode.exists_inequality predicateRead
          obtain ⟨_, otherRead, claim⟩ := childHypothesis _ (by simp) node read
          exact ⟨_, decodeClaim_untilHolds_eq_ok predicateOther otherRead,
            .untilHolds predicate claim⟩
      | anytime predicateRead reads =>
          obtain ⟨_, _, _, rfl, predicateNode, node⟩ := alike.exists_binary
          obtain ⟨_, predicateOther, predicate⟩ :=
            predicateNode.exists_inequality predicateRead
          obtain ⟨_, otherReads, electable⟩ := node.exists_electable reads
            fun _ => childHypothesis _ (by simp) node
          exact ⟨_, decodeClaim_anytime_eq_ok predicateOther otherReads,
            .anytime predicate electable⟩

end Alike

/-! ## Results -/

/-- Two readings end alike: with terms that are, or with errors of one variant that name a
node of one tag and a defect that differs at most in an identifier. -/
inductive ReadsLike
    {Term : Type}
    (likeness : Term -> Term -> Prop) : Except TreeError Term -> Except TreeError Term -> Prop
  | terms
      {term other : Term}
      (alike : likeness term other) :
      ReadsLike likeness (.ok term) (.ok other)
  | errors
      {error other : TreeError}
      (variant : error.isIncomplete = other.isIncomplete)
      (tag : error.nodeTag = other.nodeTag)
      (unnamed : error.unnamed = other.unnamed) :
      ReadsLike likeness (.error error) (.error other)

/-- Readings end alike if they report the same and a term on one side has a counterpart on
the other. -/
theorem readsLike_of_errorOf?
    {Term : Type}
    {likeness : Term -> Term -> Prop}
    {result other : Except TreeError Term}
    (reports : (errorOf? result).map TreeError.unnamed = (errorOf? other).map TreeError.unnamed)
    (counterparts : ∀ term, result = .ok term ->
      ∃ counterpart, other = .ok counterpart ∧ likeness term counterpart) :
    ReadsLike likeness result other := by
  cases result with
  | ok term =>
      obtain ⟨counterpart, rfl, alike⟩ := counterparts term rfl
      exact .terms alike
  | error error =>
      cases other with
      | ok term => cases reports
      | error otherError =>
          have unnamed : error.unnamed = otherError.unnamed := Option.some.inj reports
          refine .errors ?_ ?_ unnamed
          · rw [← error.isIncomplete_unnamed, unnamed, otherError.isIncomplete_unnamed]
          · rw [← error.nodeTag_unnamed, unnamed, otherError.nodeTag_unnamed]

/-- A reader for one type of nodes: of a node of this type it reports the first node to
blame, and of any other node the type. -/
structure ReportsFaults
    {Term : Type}
    (expected : NodeType)
    (decode : Tree -> Except TreeError Term) : Prop where
  typed : ∀ node, node.type = expected -> errorOf? (decode node) = firstBlame? node.reading
  untyped :
    ∀ node, node.type ≠ expected ->
      decode node = .error (.ofDefect node (.unexpectedType expected node.type))

theorem reportsFaults_decodeClaim : ReportsFaults .claim decodeClaim where
  typed _ := errorOf?_decodeClaim
  untyped node different := by
    rcases node with ⟨id, tag, type, children, text, value⟩
    unfold decodeClaim
    simp only [prepare_of_type_ne different]
    rfl

theorem reportsFaults_decodeObservation : ReportsFaults .observation decodeObservation where
  typed _ := errorOf?_decodeObservation
  untyped node different := by
    rcases node with ⟨id, tag, type, children, text, value⟩
    unfold decodeObservation
    simp only [prepare_of_type_ne different]
    rfl

theorem reportsFaults_decodeInequality : ReportsFaults .inequality decodeInequality where
  typed _ := errorOf?_decodeInequality
  untyped node different := by
    rw [decodeInequality, prepare_of_type_ne different]
    rfl

section Results

variable {same : Decimal -> Decimal -> Prop} {left right : Tree}

theorem ReportsFaults.errorOf?_unnamed
    {Term : Type}
    {expected : NodeType}
    {decode : Tree -> Except TreeError Term}
    (reports : ReportsFaults expected decode)
    (alike : left.Alike same right) :
    (errorOf? (decode left)).map TreeError.unnamed =
      (errorOf? (decode right)).map TreeError.unnamed := by
  by_cases typed : left.type = expected
  · rw [reports.typed left typed, reports.typed right (alike.type_eq ▸ typed),
      alike.firstBlame?_reading]
  · rw [reports.untyped left typed, reports.untyped right (alike.type_eq ▸ typed)]
    change some (TreeError.invalid "" left.tag (.unexpectedType expected left.type)) =
      some (.invalid "" right.tag (.unexpectedType expected right.type))
    rw [alike.tag_eq, alike.type_eq]

/-- Trees that are alike are read alike. -/
theorem Alike.readsLike
    {claims : Claim -> Claim -> Prop}
    {observations : Observation -> Observation -> Prop}
    {inequalities : Inequality -> Inequality -> Prop}
    (alike : left.Alike same right)
    (claimLikeness : ∀ term other : Claim, term.Alike same other -> claims term other)
    (observationLikeness : ∀ term other : Observation, term.Alike same other ->
      observations term other)
    (inequalityLikeness : ∀ term other : Inequality, term.Alike same other ->
      inequalities term other) :
    ReadsLike claims left.decodeClaim right.decodeClaim ∧
      ReadsLike observations left.decodeObservation right.decodeObservation ∧
        ReadsLike inequalities left.decodeInequality right.decodeInequality := by
  refine ⟨?_, ?_, ?_⟩
  · refine readsLike_of_errorOf? (reportsFaults_decodeClaim.errorOf?_unnamed alike) ?_
    intro term read
    obtain ⟨other, otherRead, terms⟩ := alike.exists_claim read
    exact ⟨other, otherRead, claimLikeness term other terms⟩
  · refine readsLike_of_errorOf? (reportsFaults_decodeObservation.errorOf?_unnamed alike) ?_
    intro term read
    obtain ⟨other, otherRead, terms⟩ := alike.exists_observation read
    exact ⟨other, otherRead, observationLikeness term other terms⟩
  · refine readsLike_of_errorOf? (reportsFaults_decodeInequality.errorOf?_unnamed alike) ?_
    intro term read
    obtain ⟨other, otherRead, terms⟩ := alike.exists_inequality read
    exact ⟨other, otherRead, inequalityLikeness term other terms⟩

end Results

/-- Checker and decoder take two trees for the same. -/
structure SeenAlike (left right : Tree) : Prop where
  valid : left.validate = .ok () ↔ right.validate = .ok ()
  complete : left.isComplete = right.isComplete
  /-- What is read is equal by value, or the same fails on both. -/
  claim :
    ReadsLike (fun term other => (term == other) = true) left.decodeClaim right.decodeClaim
  observation :
    ReadsLike (fun term other => (term == other) = true)
      left.decodeObservation right.decodeObservation
  inequality :
    ReadsLike (fun term other => (term == other) = true)
      left.decodeInequality right.decodeInequality
  /-- If the trees differ in nothing but identifiers, what is read is the same. -/
  identical :
    ∀ id, left.renamed id = right.renamed id ->
      ReadsLike Eq left.decodeClaim right.decodeClaim ∧
        ReadsLike Eq left.decodeObservation right.decodeObservation ∧
          ReadsLike Eq left.decodeInequality right.decodeInequality

/-- Checker and decoder see the shape of a tree only, whatever the identifiers on its nodes
are. -/
theorem seenAlike_of_sameShape
    {left right : Tree}
    (equal : left.sameShape right = true) :
    left.SeenAlike right := by
  have alike := alike_of_sameShape equal
  obtain ⟨claim, observation, inequality⟩ := alike.readsLike
    (fun _ _ terms => terms.beq) (fun _ _ terms => terms.beq) (fun _ _ terms => terms.beq)
  refine ⟨alike.validate_iff, alike.isComplete_eq, claim, observation, inequality, ?_⟩
  intro id renamed
  exact (alike_of_renamed renamed).readsLike
    (fun _ _ terms => terms.eq) (fun _ _ terms => terms.eq) (fun _ _ terms => terms.eq)

/-- A difference under one identifier for all of its nodes, and one with other fraction
digits whose nodes have identifiers of their own. -/
theorem seenAlike_of_sameShape_repeated :
    let repeated : Tree :=
      .observation "x" .sub
        [.observation "x" .const [.ofLeaf "x" (.decimal ⟨false, 10, 1, by decide, by decide⟩)],
          .observation "x" .observe [.ofLeaf "x" (.key "SPX")]]
    let distinct : Tree :=
      .observation "a" .sub
        [.observation "b" .const
            [.ofLeaf "c" (.decimal ⟨false, 100, 2, by decide, by decide⟩)],
          .observation "d" .observe [.ofLeaf "e" (.key "SPX")]]
    repeated.sameShape distinct = true ∧ repeated.SeenAlike distinct := by
  intro repeated distinct
  have equal : repeated.sameShape distinct = true := by decide
  exact ⟨equal, seenAlike_of_sameShape equal⟩

end Tree
end ContingentClaims
