import ContingentClaims.Command.Run
import ContingentClaims.Proofs.Decoding.Zeros
import ContingentClaims.Proofs.Ids.Numbering

/-!
# Decoding what was encoded

The text that is printed for the tree of a term is handed on to be decoded. The canonical
document of the term is printed in turn, without the signs of zeros, unless the tree nests
more deeply than the reader of documents allows (`run_decode_of_run_encode`). The tree of a
term that can be read may do so, as it nests about twice as deeply.
-/

namespace ContingentClaims
namespace Command

/-- The line of a document that is printed. -/
theorem Outcome.output_ofJson (value : Json) :
    (Outcome.ofJson value).output = value.pretty ++ "\n" := by
  simp [ofJson, ofLines, unlines]

/-! ## Printed trees -/

section Trees

variable {environment : Environment} {path : String} {tree : Tree}

/-- The document that is printed for a tree is read back unless it nests too deeply. -/
theorem readJson_of_printed
    (printed : environment.fileText path = some (Outcome.ofJson tree.toJson).output) :
    environment.readJson path =
      if tree.toJson.depth ≤ Json.maxDepth then .ok tree.toJson
      else .error (.malformedJson path) := by
  have parsed := tree.parse?_pretty_toJson
  rw [← Outcome.output_ofJson] at parsed
  by_cases fits : tree.toJson.depth ≤ Json.maxDepth
  · simp [Environment.readJson, printed, parsed, fits]
  · simp [Environment.readJson, printed, parsed, fits]

theorem loadTree_toJson (tree : Tree) : loadTree tree.toJson = .ok tree.unsignZeros := by
  rw [loadTree, tree.ofJson?_toJson]

end Trees

/-! ## Terms of documents -/

/-- The term of a document. -/
def term?
    (kind : TermKind)
    (value : Json) : Option Part :=
  match kind with
  | .claim => (Claim.ofJson? value).map .claim
  | .observation => (Observation.ofJson? value).map .observation
  | .inequality => (Inequality.ofJson? value).map .inequality

section Terms

variable {kind : TermKind} {value : Json} {term : Part} {tree : Tree}

theorem encodeDocument?_eq
    (kind : TermKind)
    (value : Json)
    (ids : IdSource) :
    encodeDocument? kind value ids =
      (term? kind value).map fun term => term.encode.run ids := by
  cases kind <;>
  · rw [encodeDocument?, term?, Option.map_map]
    rfl

/-- The document of what a tree denotes, if this is of the kind of a term. -/
theorem decodeDocument_of_denotes
    (read : term? kind value = some term)
    (denotes : tree.Denotes term.unsignZeros) :
    decodeDocument kind tree = .ok term.unsignZeros.toJson := by
  cases kind with
  | claim =>
      obtain ⟨_, _, rfl⟩ := Option.map_eq_some_iff.1 read
      exact congrArg (Except.map Claim.toJson) denotes
  | observation =>
      obtain ⟨_, _, rfl⟩ := Option.map_eq_some_iff.1 read
      exact congrArg (Except.map Observation.toJson) denotes
  | inequality =>
      obtain ⟨_, _, rfl⟩ := Option.map_eq_some_iff.1 read
      exact congrArg (Except.map Inequality.toJson) denotes

end Terms

/-! ## Canonical documents -/

/-- An environment in which every file has the same text. -/
def Environment.ofText (text : String) : Environment where
  fileText _ := some text
  randomIds := (SequentialIds.mk "r" 0).source

/-- The request to encode the claim of a file. -/
def encodeRequest : Invocation where
  output := .text
  quiet := false
  ids := .sequential
  task := .encode "term" .claim

/-- The request to decode the claim of a file. -/
def decodeRequest : Invocation where
  output := .text
  quiet := false
  ids := .sequential
  task := .decode "tree" .claim

/-- What comes of the canonical document of a claim when it is encoded. -/
def encoded (claim : Claim) : Outcome :=
  run (.ofText (Outcome.ofJson claim.toJson).output) encodeRequest

/-- What comes of what was printed for a claim when it is decoded. -/
def decoded (claim : Claim) : Outcome :=
  run (.ofText (encoded claim).output) decodeRequest

/-- The canonical document of a claim is read unless it nests too deeply. -/
theorem readJson_ofText
    {claim : Claim}
    (fits : claim.toJson.depth ≤ Json.maxDepth)
    (file : String) :
    (Environment.ofText (Outcome.ofJson claim.toJson).output).readJson file =
      .ok claim.toJson := by
  have parsed : Json.parse? (Outcome.ofJson claim.toJson).output = some claim.toJson := by
    rw [Outcome.output_ofJson]
    exact ((Part.claim claim).parse?_pretty_toJson).trans (if_pos fits)
  simp [Environment.readJson, Environment.ofText, parsed]

/-- The counter that starts from zero lasts for a part that has fewer constructors and leaves
than there are words. -/
theorem overflowed_encode
    {part : Part}
    (small : part.size < UInt64.size) :
    (part.encode.run (SequentialIds.mk "n" 0).source).2.overflowed = false := by
  have written := part.writes_encode (SequentialIds.mk "n" 0).source
  have counted := written.counted
  have zero : (SequentialIds.mk "n" 0).next.toNat = 0 := rfl
  rw [written.drawn, SequentialIds.overflowed_skip_source_eq_false_iff, zero]
  omega

/-- What is printed for a claim is a tree of the claim. -/
theorem exists_encoded
    {claim : Claim}
    (fits : claim.toJson.depth ≤ Json.maxDepth)
    (small : claim.unsignZeros.size < UInt64.size) :
    ∃ tree : Tree, tree.Encodes (.claim claim.unsignZeros) ∧
      encoded claim = .ofJson tree.toJson := by
  have encodes := (Part.claim claim.unsignZeros).encodes_encode (SequentialIds.mk "n" 0).source
  have lasts := @overflowed_encode (.claim claim.unsignZeros) small
  generalize written :
    (Part.claim claim.unsignZeros).encode.run (SequentialIds.mk "n" 0).source = result
    at encodes lasts
  obtain ⟨tree, ids⟩ := result
  change claim.unsignZeros.encode.run _ = _ at written
  refine ⟨tree, encodes, ?_⟩
  simp only [encoded, run, runTask, encodeRequest, encode, readJson_ofText fits,
    encodeDocument?, claim.ofJson?_toJson, bind, Except.bind, Option.map_some,
    Environment.idSource, written, lasts]
  rfl

/-! ## Runs -/

section Runs

variable {environment later : Environment} {encoding decoding : Invocation}
variable {kind : TermKind} {file path : String}

theorem Failure.exitCode_ne_zero (failure : Failure) : failure.exitCode ≠ 0 := by
  cases failure <;> exact Nat.succ_ne_zero _

/-- A run that does not fail ends with what its task prints. -/
theorem runTask_of_exitCode
    {invocation : Invocation}
    (accepted : (run environment invocation).exitCode = 0) :
    runTask environment invocation = .ok (run environment invocation) := by
  rw [run] at accepted ⊢
  split at accepted
  next outcome ran => rw [ran]
  next failure ran => exact absurd accepted failure.exitCode_ne_zero

/-- If a file is encoded, its document is a term, and the tree of the term is printed. -/
theorem exists_tree_of_run_encode
    (encodes : encoding.task = .encode file kind)
    (accepted : (run environment encoding).exitCode = 0) :
    ∃ value tree ids, environment.readJson file = .ok value ∧
      encodeDocument? kind value (environment.idSource encoding.ids) = some (tree, ids) ∧
      run environment encoding = .ofJson tree.toJson := by
  have ran := runTask_of_exitCode accepted
  rw [runTask, encodes] at ran
  change encode environment encoding.ids file kind = _ at ran
  rw [encode] at ran
  cases read : environment.readJson file with
  | error failure =>
      rw [read] at ran
      cases ran
  | ok value =>
      rw [read] at ran
      cases written : encodeDocument? kind value (environment.idSource encoding.ids) with
      | none =>
          simp only [Except.bind, bind, written] at ran
          cases ran
      | some result =>
          obtain ⟨tree, ids⟩ := result
          simp only [Except.bind, bind, written] at ran
          split at ran
          next => cases ran
          next => exact ⟨value, tree, ids, rfl, written, (Except.ok.inj ran).symm⟩

/-- The printed tree of a term is decoded, but for the signs of zeros, unless it nests too
deeply. -/
theorem run_decode_ofJson
    {value : Json}
    {term : Part}
    {tree : Tree}
    (decodes : decoding.task = .decode path kind)
    (handedOn : later.fileText path = some (Outcome.ofJson tree.toJson).output)
    (read : term? kind value = some term)
    (encodes : tree.Encodes term) :
    run later decoding =
      if tree.toJson.depth ≤ Json.maxDepth then .ofJson term.unsignZeros.toJson
      else
        { exitCode := 1
          report := (Failure.malformedJson path).report decoding.output decoding.quiet } := by
  have document := readJson_of_printed handedOn
  have ran : runTask later decoding = decode later path kind := by rw [runTask, decodes]
  by_cases fits : tree.toJson.depth ≤ Json.maxDepth
  · rw [if_pos fits] at document
    have decoded := decodeDocument_of_denotes read encodes.denotes_unsignZeros
    have printed : decode later path kind = .ok (.ofJson term.unsignZeros.toJson) := by
      simp only [decode, document, loadTree_toJson, decoded, bind, Except.bind]
      rfl
    rw [run, ran, printed, if_pos fits]
  · rw [if_neg fits] at document
    have failed : decode later path kind = .error (.malformedJson path) := by
      simp only [decode, document, bind, Except.bind]
    rw [run, ran, failed, if_neg fits]
    rfl

/-- What is encoded is printed as a tree whose text is decoded to the canonical document of
the same term, without the signs of zeros. Only a tree that nests too deeply is refused,
and that of a term does not if the canonical document has at most 62 levels. -/
theorem run_decode_of_run_encode
    (encodes : encoding.task = .encode file kind)
    (accepted : (run environment encoding).exitCode = 0)
    (decodes : decoding.task = .decode path kind)
    (handedOn : later.fileText path = some (run environment encoding).output) :
    ∃ value term tree,
      environment.readJson file = .ok value ∧
      term? kind value = some term ∧
      tree = (term.encode.run (environment.idSource encoding.ids)).1 ∧
      run environment encoding = .ofJson tree.toJson ∧
      (term.unsignZeros.toJson.depth ≤ 62 -> tree.toJson.depth ≤ Json.maxDepth) ∧
      run later decoding =
        if tree.toJson.depth ≤ Json.maxDepth then .ofJson term.unsignZeros.toJson
        else
          { exitCode := 1
            report := (Failure.malformedJson path).report decoding.output decoding.quiet } := by
  obtain ⟨value, tree, ids, readable, written, printed⟩ :=
    exists_tree_of_run_encode encodes accepted
  rw [encodeDocument?_eq, Option.map_eq_some_iff] at written
  obtain ⟨term, read, result⟩ := written
  obtain rfl : (term.encode.run (environment.idSource encoding.ids)).1 = tree :=
    congrArg Prod.fst result
  have own := term.encodes_encode (environment.idSource encoding.ids)
  rw [printed] at handedOn
  exact ⟨value, term, _, readable, read, rfl, printed, own.depth_toJson_le_maxDepth,
    run_decode_ofJson decodes handedOn read own⟩

end Runs

theorem run_decode_of_run_encode_scale :
    (encoded (.scale (.observe "rate") (.one ⟨"USD", none⟩))).exitCode = 0 ∧
      decoded (.scale (.observe "rate") (.one ⟨"USD", none⟩)) =
        .ofJson (Claim.scale (.observe "rate") (.one ⟨"USD", none⟩)).toJson := by
  generalize named : Claim.scale (.observe "rate") (.one ⟨"USD", none⟩) = claim
  have nested : claim.toJson.depth = 4 := by
    rw [← named]
    decide
  have unsigned : claim.unsignZeros = claim := by
    rw [← named]
    rfl
  have fits : claim.toJson.depth ≤ Json.maxDepth := by
    rw [nested]
    decide
  have small : claim.unsignZeros.size < UInt64.size := by
    rw [unsigned, ← named]
    decide
  obtain ⟨_, _, printed⟩ := exists_encoded fits small
  have accepted : (encoded claim).exitCode = 0 := by
    rw [printed]
    rfl
  have encodes : encodeRequest.task = .encode "term" .claim := rfl
  have decodes : decodeRequest.task = .decode "tree" .claim := rfl
  have handedOn : (Environment.ofText (encoded claim).output).fileText "tree" =
      some (encoded claim).output := rfl
  obtain ⟨value, term, tree, readable, read, _, _, shallow, ran⟩ :=
    run_decode_of_run_encode encodes accepted decodes handedOn
  rw [readJson_ofText fits, Except.ok.injEq] at readable
  subst readable
  rw [term?, claim.ofJson?_toJson, unsigned, Option.map_some, Option.some.injEq] at read
  subst read
  simp only [Part.unsignZeros, Part.toJson, unsigned] at shallow ran
  have fitting : tree.toJson.depth ≤ Json.maxDepth := shallow (by rw [nested]; decide)
  exact ⟨accepted, ran.trans (if_pos fitting)⟩

end Command

/-! ## Claims that are given away -/

/-- Nothing, given away so many times. -/
def Claim.givenAway : Nat -> Claim
  | 0 => .zero
  | count + 1 => .give (givenAway count)

theorem Claim.unsignZeros_givenAway (count : Nat) :
    (givenAway count).unsignZeros = givenAway count := by
  induction count with
  | zero => rfl
  | succ count countHypothesis => rw [givenAway, unsignZeros, countHypothesis]

theorem Claim.size_givenAway (count : Nat) : (givenAway count).size = count + 1 := by
  induction count with
  | zero => rfl
  | succ count countHypothesis => rw [givenAway, size, countHypothesis, Nat.add_comm]

theorem Claim.depth_toJson_givenAway (count : Nat) :
    (givenAway count).toJson.depth = count + 1 := by
  induction count with
  | zero => rfl
  | succ count countHypothesis =>
      rw [givenAway, toJson, Json.depth_tagged, countHypothesis]

/-- Each time that a claim is given away, its document has one more level and the document
of its tree has two. -/
theorem Tree.Encodes.depth_toJson_givenAway
    {count : Nat}
    {tree : Tree}
    (encodes : tree.Encodes (.claim (.givenAway count))) :
    tree.toJson.depth = 2 * count + 2 := by
  induction count generalizing tree with
  | zero =>
      obtain ⟨children, split, operands⟩ := encodes.exists_node
      cases operands
      rw [split]
      rfl
  | succ count countHypothesis =>
      obtain ⟨children, split, operands⟩ := encodes.exists_node
      rcases operands with _ | ⟨child, _ | _⟩
      rw [split]
      simp [Part.node, Part.text, Part.value, toJson, treesToJson, Json.depth,
        Json.depthOfFields, Json.depthOfItems, countHypothesis child]
      omega

namespace Command

/-- A claim that is given away more than 62 times is encoded as long as its document can be
read, but its tree cannot be decoded. -/
theorem decoded_givenAway
    {count : Nat}
    (fits : count < Json.maxDepth)
    (deep : 62 < count) :
    (encoded (.givenAway count)).exitCode = 0 ∧
      decoded (.givenAway count) =
        { exitCode := 1, report := .lines ["error parsing JSON in 'tree'"] } := by
  have shallow : (Claim.givenAway count).toJson.depth ≤ Json.maxDepth := by
    rw [Claim.depth_toJson_givenAway]
    exact fits
  have small : (Claim.givenAway count).unsignZeros.size < UInt64.size := by
    rw [Claim.unsignZeros_givenAway, Claim.size_givenAway]
    exact Nat.lt_of_le_of_lt fits (by decide)
  obtain ⟨tree, encodes, printed⟩ := exists_encoded shallow small
  rw [Claim.unsignZeros_givenAway] at encodes
  have tooDeep : ¬tree.toJson.depth ≤ Json.maxDepth := by
    rw [encodes.depth_toJson_givenAway, Json.maxDepth]
    omega
  have decodes : decodeRequest.task = .decode "tree" .claim := rfl
  have handedOn : (Environment.ofText (encoded (.givenAway count)).output).fileText "tree" =
      some (Outcome.ofJson tree.toJson).output := congrArg some (congrArg Outcome.output printed)
  have read : term? .claim (Claim.givenAway count).toJson = some (.claim (.givenAway count)) := by
    rw [term?, Claim.ofJson?_toJson, Claim.unsignZeros_givenAway]
    rfl
  refine ⟨congrArg Outcome.exitCode printed, ?_⟩
  rw [decoded, run_decode_ofJson decodes handedOn read encodes, if_neg tooDeep]
  rfl

/-- Nothing, given away 63 times, is encoded to a tree that is refused. -/
theorem decoded_givenAway_sixtyThree :
    (encoded (.givenAway 63)).exitCode = 0 ∧
      decoded (.givenAway 63) =
        { exitCode := 1, report := .lines ["error parsing JSON in 'tree'"] } :=
  decoded_givenAway (by decide) (by decide)

end Command
end ContingentClaims
