import ContingentClaims.Proofs.Decoding.Denotation
import ContingentClaims.Proofs.Ids.Encoding
import ContingentClaims.Proofs.Menu.Operands

/-!
# Numbering of written trees

The tree of a term has one node for each constructor and each leaf of the term, except that
a negation which makes a sum a difference has no node. Its identifiers are the names that the
source hands out next, one for each node in pre-order, so none is skipped and none is drawn
twice (`encode_writes`).
-/

namespace ContingentClaims

/-! ## Differences -/

/-- Whether the outermost constructor of an observation is a negation. -/
def Observation.isNegation : Observation -> Bool
  | neg _ => true
  | _ => false

/-- The sums in an observation whose second operand is a negation. -/
def Observation.differences : Observation -> Nat
  | const _ => 0
  | observe _ => 0
  | observeAt _ _ => 0
  | add left right => left.differences + right.differences + right.isNegation.toNat
  | neg operand => operand.differences
  | mul left right => left.differences + right.differences
  | div left right => left.differences + right.differences

/-- The differences in an inequality. -/
def Inequality.differences : Inequality -> Nat
  | timeGte _ => 0
  | timeLte _ => 0
  | lte left right => left.differences + right.differences

mutual

/-- The differences in a claim. -/
def Claim.differences : Claim -> Nat
  | .zero => 0
  | .one _ => 0
  | .give claim => claim.differences
  | .and first second others =>
      first.differences + second.differences + differencesOfClaims others
  | .or first second others =>
      first.differences + second.differences + differencesOfElectables others
  | .cond predicate success failure =>
      predicate.differences + success.differences + failure.differences
  | .scale factor claim => factor.differences + claim.differences
  | .whenHolds predicate claim => predicate.differences + claim.differences
  | .untilHolds predicate claim => predicate.differences + claim.differences
  | .anytime predicate electable => predicate.differences + electable.differences
termination_by structural claim => claim

/-- The differences in the claim of an alternative. -/
def Electable.differences : Electable -> Nat
  | .mk _ claim => claim.differences
termination_by structural electable => electable

/-- The differences in claims together. -/
def differencesOfClaims : List Claim -> Nat
  | [] => 0
  | claim :: rest => claim.differences + differencesOfClaims rest
termination_by structural claims => claims

/-- The differences in alternatives together. -/
def differencesOfElectables : List Electable -> Nat
  | [] => 0
  | electable :: rest => electable.differences + differencesOfElectables rest
termination_by structural electables => electables

end

/-! ## Parts by what is drawn of them -/

namespace Part

/-- The differences in a part. -/
def differences : Part -> Nat
  | claim term => term.differences
  | electable term => term.differences
  | observation term => term.differences
  | inequality term => term.differences
  | leaf _ => 0

/-- The negations directly below a part that its node stands for as well. -/
def absorbed : Part -> Nat
  | observation (.add _ right) => right.isNegation.toNat
  | _ => 0

theorem differencesOfClaims_eq (claims : List Claim) :
    differencesOfClaims claims = ((claims.map claim).map differences).sum := by
  induction claims with
  | nil => rfl
  | cons claim rest restHypothesis =>
      rw [differencesOfClaims, restHypothesis]
      rfl

theorem differencesOfElectables_eq (electables : List Electable) :
    differencesOfElectables electables = ((electables.map electable).map differences).sum := by
  induction electables with
  | nil => rfl
  | cons electable rest restHypothesis =>
      rw [differencesOfElectables, restHypothesis]
      rfl

theorem differences_claim (term : Claim) :
    term.differences = (term.operands.map differences).sum := by
  cases term with
  | and first second others =>
      simp [Claim.differences, Claim.operands, differences, differencesOfClaims_eq,
        Nat.add_assoc]
  | or first second others =>
      simp [Claim.differences, Claim.operands, differences, differencesOfElectables_eq,
        Nat.add_assoc]
  | _ => simp [Claim.differences, Claim.operands, differences, Nat.add_assoc]

/-- The differences in a part are those in what is drawn below its node, and the part
itself if it is one. -/
theorem differences_eq (part : Part) :
    part.differences = (part.drawn.map differences).sum + part.absorbed := by
  cases part with
  | claim term => exact differences_claim term
  | electable alternative =>
      rcases alternative with ⟨label, term⟩
      exact differences_claim term
  | observation term =>
      cases term with
      | add left right =>
          cases right <;>
            simp [differences, absorbed, drawn, Observation.differences,
              Observation.operands, Observation.isNegation]
      | _ => simp [differences, absorbed, drawn, Observation.differences, Observation.operands]
  | inequality term =>
      cases term <;>
        simp [differences, absorbed, drawn, Inequality.differences, Inequality.operands]
  | leaf content => rfl

/-- A part consists of its constructor, of what is drawn below its node, and of the negation
that is not drawn. -/
theorem size_eq (part : Part) :
    part.size = (part.drawn.map size).sum + 1 + part.absorbed := by
  cases part with
  | claim term => exact term.size_eq_operands
  | electable alternative =>
      rcases alternative with ⟨label, term⟩
      exact term.size_eq_operands
  | observation term =>
      cases term with
      | add left right =>
          cases right <;>
            simp [size, absorbed, drawn, Observation.size, Observation.operands,
              Observation.isNegation, Nat.add_assoc]
      | _ => simp [size, absorbed, drawn, Observation.size, Observation.operands]
  | inequality term =>
      cases term <;> simp [size, absorbed, drawn, Inequality.size, Inequality.operands]
  | leaf content => rfl

end Part

/-! ## Nodes of written trees -/

namespace Tree

/-- What is counted for each of some parts is counted for all of them. -/
theorem length_preorderAll_add_differences
    {trees : List Tree}
    {parts : List Part}
    (encode : List.Forall₂ Encodes trees parts)
    (each :
      ∀ part ∈ parts, ∀ tree : Tree, tree.Encodes part ->
        tree.preorder.length + part.differences = part.size) :
    (preorderAll trees).length + (parts.map Part.differences).sum =
      (parts.map Part.size).sum := by
  induction encode with
  | nil => rfl
  | @cons tree part trees parts encodes _ restHypothesis =>
      obtain ⟨partCounted, restCounted⟩ := List.forall_mem_cons.1 each
      have first := partCounted tree encodes
      have rest := restHypothesis restCounted
      rw [preorderAll_cons, List.length_append, List.map_cons, List.sum_cons, List.map_cons,
        List.sum_cons]
      omega

/-- A written tree has a node for each constructor and leaf of its part but for the negations
that make sums differences. -/
theorem Encodes.length_preorder_add_differences
    {part : Part}
    {tree : Tree}
    (encodes : tree.Encodes part) :
    tree.preorder.length + part.differences = part.size := by
  induction part using Part.drawnInduction generalizing tree with
  | step part partHypothesis =>
      obtain ⟨children, split, operands⟩ := encodes.exists_node
      have below := length_preorderAll_add_differences operands
        fun operand present _ => partHypothesis operand present
      have counted : tree.preorder.length = (preorderAll children).length + 1 := by
        rw [preorder_eq, congrArg Tree.children split]
        rfl
      rw [counted, part.differences_eq, part.size_eq]
      omega

end Tree

/-! ## Written trees -/

/-- What is written for a part: a finished tree, numbered with the next names of the source in
pre-order, and the source as it is left. -/
structure Part.Writes
    (part : Part)
    (source : IdSource)
    (tree : Tree)
    (later : IdSource) : Prop where
  valid : tree.validate = .ok ()
  complete : tree.isComplete = true
  numbered : tree.ids = source.upcoming tree.count
  /-- As many names are drawn as there are nodes. -/
  drawn : later = source.skip tree.count
  counted : tree.count + part.differences = part.size

theorem Part.writes_encode
    (part : Part)
    (source : IdSource) :
    part.Writes source (part.encode.run source).1 (part.encode.run source).2 := by
  have encodes := part.encodes_encode source
  have given := part.handsOut_encode source
  have counted := encodes.length_preorder_add_differences
  generalize (part.encode.run source).1 = tree at encodes given counted ⊢
  generalize (part.encode.run source).2 = later at given ⊢
  obtain ⟨amount, numbered, drawn⟩ := given
  obtain ⟨grammatical, complete⟩ := encodes.denotes.passes
  have all : tree.count = amount := by
    have lengths := congrArg List.length numbered
    simpa [Tree.ids, Tree.count, IdSource.names_eq_upcoming, IdSource.upcoming] using lengths
  exact {
    valid := (Tree.validate_eq_ok_iff tree).2 grammatical
    complete
    numbered := by rw [numbered, IdSource.names_eq_upcoming, all]
    drawn := by rw [drawn, all]
    counted := by
      rw [Tree.count, Tree.walk_eq_preorder]
      exact counted }

/-- Every claim, observation and inequality is written as a finished tree that is numbered in
pre-order, whatever the source. -/
theorem encode_writes :
    (∀ (claim : Claim) (source : IdSource),
      (Part.claim claim).Writes source (claim.encode.run source).1
        (claim.encode.run source).2) ∧
    (∀ (observation : Observation) (source : IdSource),
      (Part.observation observation).Writes source (observation.encode.run source).1
        (observation.encode.run source).2) ∧
    (∀ (inequality : Inequality) (source : IdSource),
      (Part.inequality inequality).Writes source (inequality.encode.run source).1
        (inequality.encode.run source).2) :=
  ⟨fun claim => (Part.claim claim).writes_encode,
    fun observation => (Part.observation observation).writes_encode,
    fun inequality => (Part.inequality inequality).writes_encode⟩

end ContingentClaims
