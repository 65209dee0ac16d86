import ContingentClaims.Proofs.Command.Pipeline
import ContingentClaims.Proofs.Tree.Schema

/-!
# Validating what was encoded

The tree of a term passes the grammar and has no open slot, and its document conforms to
the schema unless a date of the term lies before the year zero. What is printed for the tree
is therefore found valid and complete, but for two reasons to refuse it: such a date, and a
document that nests too deeply to be read (`validatesAs_encode`).
-/

namespace ContingentClaims
namespace Command

/-- What is printed about a valid tree without open slots. -/
def Outcome.complete (invocation : Invocation) : Outcome :=
  if invocation.quiet then {}
  else
    match invocation.output with
    | .text => .ofLines ["valid (complete)"]
    | .json => .ofLines ["\x7b\"complete\":true,\"open_slots\":0,\"valid\":true\x7d"]

theorem compact_complete :
    (Json.object
      [("complete", .bool true), ("open_slots", .nat 0), ("valid", .bool true)]).compact =
      "\x7b\"complete\":true,\"open_slots\":0,\"valid\":true\x7d" := by
  have digit : Digits.write 0 = ['0'] := by
    rw [Digits.write]
    rfl
  have slots : (Json.nat 0).compactChars = ['0'] := by
    simpa [Json.nat, Json.compactChars, Json.Number.literal] using digit
  simp only [Json.compact, Json.compactChars, Json.compactFields, slots]
  rfl

section Runs

variable {environment : Environment} {invocation : Invocation}
variable {path : String} {tree : Tree}

/-- A document that conforms is found valid and complete if its tree is. -/
theorem validate_of_complete
    {value : Json}
    (document : environment.readJson path = .ok value)
    (conforms : Schema.isNode value = true)
    (loaded : loadTree value = .ok tree)
    (valid : tree.validate = .ok ())
    (complete : tree.isComplete = true) :
    validate environment invocation.output invocation.quiet path = .ok (.complete invocation) := by
  have noSlots : tree.walk.filter Tree.isPlaceholder = [] := by
    simpa [Tree.isComplete] using complete
  simp only [validate, document, conforms, loaded, valid, noSlots, bind, Except.bind]
  rcases invocation with ⟨_ | _, _ | _, ids, task⟩
  · rfl
  · rfl
  · exact congrArg (fun line => Except.ok (Outcome.ofLines [line])) compact_complete
  · rfl

theorem runTask_validate (validates : invocation.task = .validate path) :
    runTask environment invocation =
      validate environment invocation.output invocation.quiet path := by
  rw [runTask, validates]

/-- The document of the tree that is written for a part is found valid and complete if it
conforms. -/
theorem run_validate_of_readJson
    {part : Part}
    (validates : invocation.task = .validate path)
    (document : environment.readJson path = .ok tree.toJson)
    (encodes : tree.Encodes part) :
    run environment invocation =
      if Schema.isNode tree.toJson then .complete invocation
      else (Failure.invalidTree ["schema"]).outcome invocation := by
  by_cases conforms : Schema.isNode tree.toJson = true
  · obtain ⟨grammatical, complete⟩ := encodes.denotes_unsignZeros.passes
    have valid := (Tree.validate_eq_ok_iff tree.unsignZeros).2 grammatical
    rw [run, runTask_validate validates, if_pos conforms,
      validate_of_complete document conforms (loadTree_toJson tree) valid complete]
  · have refused : validate environment invocation.output invocation.quiet path =
        .error (.invalidTree ["schema"]) := by
      simp only [validate, document, conforms, bind, Except.bind]
      rfl
    rw [run, runTask_validate validates, if_neg conforms, refused]

/-- What is printed for the tree is judged so unless it nests too deeply to be read. -/
theorem run_validate_of_printed
    {part : Part}
    (validates : invocation.task = .validate path)
    (printed : environment.fileText path = some (Outcome.ofJson tree.toJson).output)
    (encodes : tree.Encodes part) :
    run environment invocation =
      if tree.toJson.depth ≤ Json.maxDepth then
        if Schema.isNode tree.toJson then .complete invocation
        else (Failure.invalidTree ["schema"]).outcome invocation
      else (Failure.malformedJson path).outcome invocation := by
  have document := readJson_of_printed printed
  by_cases fits : tree.toJson.depth ≤ Json.maxDepth
  · rw [if_pos fits] at document ⊢
    exact run_validate_of_readJson validates document encodes
  · rw [if_neg fits] at document ⊢
    have failed : validate environment invocation.output invocation.quiet path =
        .error (.malformedJson path) := by
      simp only [validate, document, bind, Except.bind]
    rw [run, runTask_validate validates, failed]

end Runs

/-! ## Trees of terms -/

/-- What the schema, the grammar and a run make of the tree that is written for a part. -/
structure ValidatesAs
    (part : Part)
    (tree : Tree) : Prop where
  /-- The document conforms to the schema unless a date needs the sign of its year. -/
  conforms_iff : Schema.isNode tree.toJson = true ↔ part.HasNoNegativeYear
  /-- The tree passes the grammar. -/
  valid : tree.validate = .ok ()
  /-- The tree has no open slot. -/
  complete : tree.isComplete = true
  /-- The document of the tree can be read if that of the part has at most 62 levels. -/
  fits : part.unsignZeros.toJson.depth ≤ 62 -> tree.toJson.depth ≤ Json.maxDepth
  /-- The document is found valid and complete if it conforms. -/
  run_of_document :
    ∀ environment invocation path, invocation.task = .validate path ->
      environment.readJson path = .ok tree.toJson ->
      run environment invocation =
        if Schema.isNode tree.toJson then .complete invocation
        else (Failure.invalidTree ["schema"]).outcome invocation
  /-- What is printed for the tree can be read as its document unless it nests too deeply. -/
  run_of_printed :
    ∀ environment invocation path, invocation.task = .validate path ->
      environment.fileText path = some (Outcome.ofJson tree.toJson).output ->
      run environment invocation =
        if tree.toJson.depth ≤ Json.maxDepth then
          if Schema.isNode tree.toJson then .complete invocation
          else (Failure.invalidTree ["schema"]).outcome invocation
        else (Failure.malformedJson path).outcome invocation

/-- Whatever is written for a claim, an observation or an inequality, with names of either
mode, is found valid and complete, unless a date lies before the year zero or the document
nests too deeply. -/
theorem validatesAs_encode
    (part : Part)
    (source : IdSource)
    (moded : source.IsSequential ∨ source.IsRandom) :
    ValidatesAs part (part.encode.run source).1 := by
  have encodes := part.encodes_encode source
  obtain ⟨grammatical, complete⟩ := encodes.denotes.passes
  have valid := (Tree.validate_eq_ok_iff _).2 grammatical
  refine ⟨Tree.isNode_toJson_encode_iff part moded, valid, complete,
    encodes.depth_toJson_le_maxDepth, ?_, ?_⟩
  · intro environment invocation path validates document
    exact run_validate_of_readJson validates document encodes
  · intro environment invocation path validates printed
    exact run_validate_of_printed validates printed encodes

/-- The request to validate a file. -/
def validateRequest : Invocation where
  output := .text
  quiet := false
  ids := .sequential
  task := .validate "tree"

theorem validatesAs_encode_deadline :
    let deadline : Inequality :=
      .timeGte ⟨2026, 6, 19, by decide, by decide, by decide⟩
    let numbered := (SequentialIds.mk "n" 0).source
    let random := RandomIds.source 7
    let tree := (deadline.encode.run numbered).1
    numbered.IsSequential ∧ random.IsRandom ∧
      run (.ofText (Outcome.ofJson tree.toJson).output) validateRequest =
        { output := "valid (complete)\n" } ∧
      Schema.isNode (deadline.encode.run random).1.toJson = true := by
  intro deadline numbered random tree
  have sequential : numbered.IsSequential := ⟨_, rfl⟩
  have version4 : random.IsRandom := RandomIds.isRandom_source 7
  have late : (Part.inequality deadline).HasNoNegativeYear := by
    intro date stands
    cases stands with
    | operand present inside =>
        obtain rfl := List.mem_singleton.1 present
        cases inside with
        | leaf => decide
        | operand present _ => cases present
  have validates := validatesAs_encode (.inequality deadline) numbered (.inl sequential)
  have ran := validates.run_of_printed (.ofText (Outcome.ofJson tree.toJson).output) validateRequest
    "tree" rfl rfl
  rw [if_pos (validates.fits (by decide)), if_pos (validates.conforms_iff.2 late)] at ran
  have randomly := validatesAs_encode (.inequality deadline) random (.inr version4)
  exact ⟨sequential, version4, ran, randomly.conforms_iff.2 late⟩

/-- A condition on a date before the year zero is encoded to a tree that the grammar accepts
and the schema refuses. -/
theorem run_validate_before_year_zero :
    let deadline : Inequality :=
      .timeGte ⟨-44, 3, 15, by decide, by decide, by decide⟩
    let tree := (deadline.encode.run (SequentialIds.mk "n" 0).source).1
    tree.validate = .ok () ∧ Schema.isNode tree.toJson = false ∧
      run (.ofText (Outcome.ofJson tree.toJson).output) validateRequest =
        { exitCode := 1, report := .findings ["schema"] } := by
  intro deadline tree
  have encodes : tree.Encodes (.inequality deadline) := ⟨_, rfl⟩
  have early : ¬ (Part.inequality deadline).HasNoNegativeYear := by
    intro late
    have year := late _ (.operand (List.mem_singleton_self _) .leaf)
    revert year
    decide
  have sequential : (SequentialIds.mk "n" 0).source.IsSequential := ⟨_, rfl⟩
  have refused : Schema.isNode tree.toJson = false := by
    have conforms_iff := Tree.isNode_toJson_encode_iff (.inequality deadline) (.inl sequential)
    rw [Bool.eq_false_iff]
    exact fun conforms => early (conforms_iff.1 conforms)
  have valid := (Tree.validate_eq_ok_iff _).2 encodes.denotes.passes.1
  have fits := encodes.depth_toJson_le_maxDepth (by decide)
  refine ⟨valid, refused, ?_⟩
  rw [run_validate_of_printed rfl rfl encodes, if_pos fits, refused]
  rfl

end Command
end ContingentClaims
