import ContingentClaims.Proofs.Decoding.Faults

/-!
# Reading and checking agree

The decoder and the check of a whole tree are two descriptions of one grammar. A tree
of the right type is read exactly if every node passes the check and no slot is open,
and a failure names a node that is open or that the check refuses.
-/

namespace ContingentClaims
namespace Tree

/-! ## Validity and completeness, node by node -/

theorem isComplete_iff (tree : Tree) :
    tree.isComplete = true ↔ ∀ node ∈ tree.preorder, node.isPlaceholder = false := by
  simp [isComplete, walk_eq_preorder]

/-- No node is to blame exactly if the tree is valid and complete. -/
theorem firstBlame?_reading_eq_none_iff (tree : Tree) :
    firstBlame? tree.reading = none ↔ tree.validate = .ok () ∧ tree.isComplete = true := by
  rw [firstBlame?, List.findSome?_eq_none_iff, validate_eq_ok_iff, isComplete_iff]
  simp only [tree.reading_perm_preorder.mem_iff, blame?_eq_none_iff]
  constructor
  · intro blameless
    exact ⟨fun node present => (blameless node present).2,
      fun node present => (blameless node present).1⟩
  · rintro ⟨sound, filled⟩ node present
    exact ⟨filled node present, sound node present⟩

/-- A reported error is that of a node of the tree. -/
theorem exists_blame?_of_firstBlame?
    {tree : Tree}
    {error : TreeError}
    (reported : firstBlame? tree.reading = some error) :
    ∃ node ∈ tree.preorder, node.blame? = some error := by
  obtain ⟨node, present, blamed⟩ := List.exists_of_findSome?_eq_some reported
  exact ⟨node, tree.reading_perm_preorder.mem_iff.1 present, blamed⟩

/-- A node is to blame as an open slot, or as one that the check refuses. -/
theorem blame?_eq_some
    {node : Tree}
    {error : TreeError}
    (blamed : node.blame? = some error) :
    (node.isPlaceholder = true ∧ error = .incomplete node.id node.tag) ∨
      ∃ defect, error = .invalid node.id node.tag defect ∧ node.check = .error error := by
  unfold blame? at blamed
  split at blamed
  next hole => exact Or.inl ⟨hole, (Option.some.inj blamed).symm⟩
  next filled =>
    obtain ⟨defect, found, rfl⟩ := Option.map_eq_some_iff.1 blamed
    refine Or.inr ⟨defect, rfl, ?_⟩
    rw [check, blamed]
    rfl

/-! ## Agreement -/

/-- The result of reading a tree is what the check of the tree makes one expect. -/
structure ReadsAsChecked
    {α : Type}
    (tree : Tree)
    (result : Except TreeError α) : Prop where
  /-- A term is read exactly from a valid tree without open slots. -/
  succeeds_iff :
    (∃ term, result = .ok term) ↔ tree.validate = .ok () ∧ tree.isComplete = true
  /-- All that can be reported of a valid tree is an open slot. -/
  incomplete_of_valid :
    tree.validate = .ok () -> tree.isComplete = false ->
      ∃ id tag, result = .error (.incomplete id tag)
  /-- What is reported as open is an open slot of the tree. -/
  names_slot :
    ∀ id tag, result = .error (.incomplete id tag) ->
      ∃ node ∈ tree.walk, node.isPlaceholder = true ∧ node.id = id ∧ node.tag = tag
  /-- What is reported as invalid is a node of the tree that the check refuses with
  the same words. -/
  names_defect :
    ∀ id tag defect, result = .error (.invalid id tag defect) ->
      ∃ node ∈ tree.walk, node.id = id ∧ node.tag = tag ∧
        node.check = .error (.invalid id tag defect)

/-- A reader that reports the first node to blame agrees with the check. -/
theorem readsAsChecked_of_errorOf?
    {α : Type}
    {tree : Tree}
    {result : Except TreeError α}
    (reports : errorOf? result = firstBlame? tree.reading) :
    tree.ReadsAsChecked result := by
  have succeeds_iff :
      (∃ term, result = .ok term) ↔ tree.validate = .ok () ∧ tree.isComplete = true := by
    rw [← errorOf?_eq_none_iff, reports, firstBlame?_reading_eq_none_iff]
  have blamed {error : TreeError} (failed : result = .error error) :
      ∃ node ∈ tree.preorder, node.blame? = some error := by
    apply exists_blame?_of_firstBlame?
    rw [← reports, errorOf?_eq_some_iff, failed]
  refine ⟨succeeds_iff, ?_, ?_, ?_⟩
  · intro valid incomplete
    cases read : result with
    | ok term =>
        have complete := (succeeds_iff.1 ⟨term, read⟩).2
        simp [incomplete] at complete
    | error error =>
        obtain ⟨node, present, blame⟩ := blamed read
        rcases blame?_eq_some blame with ⟨hole, rfl⟩ | ⟨defect, rfl, refused⟩
        · exact ⟨node.id, node.tag, rfl⟩
        · have passes := (fault?_eq_none_iff node).2
            ((validate_eq_ok_iff tree).1 valid node present)
          simp [check, passes, verdict] at refused
  · intro id tag failed
    obtain ⟨node, present, blame⟩ := blamed failed
    rw [walk_eq_preorder]
    rcases blame?_eq_some blame with ⟨hole, same⟩ | ⟨defect, same, refused⟩
    · obtain ⟨rfl, rfl⟩ := TreeError.incomplete.inj same
      exact ⟨node, present, hole, rfl, rfl⟩
    · simp at same
  · intro id tag defect failed
    obtain ⟨node, present, blame⟩ := blamed failed
    rw [walk_eq_preorder]
    rcases blame?_eq_some blame with ⟨hole, same⟩ | ⟨found, same, refused⟩
    · simp at same
    · obtain ⟨rfl, rfl, rfl⟩ := TreeError.invalid.inj same
      exact ⟨node, present, rfl, rfl, refused⟩

/-- The three readers agree with the check on every tree of their type. -/
theorem decode_agrees_with_validate (tree : Tree) :
    (tree.type = .claim -> tree.ReadsAsChecked tree.decodeClaim) ∧
    (tree.type = .observation -> tree.ReadsAsChecked tree.decodeObservation) ∧
    (tree.type = .inequality -> tree.ReadsAsChecked tree.decodeInequality) :=
  ⟨fun typed => readsAsChecked_of_errorOf? (errorOf?_decodeClaim typed),
    fun typed => readsAsChecked_of_errorOf? (errorOf?_decodeObservation typed),
    fun typed => readsAsChecked_of_errorOf? (errorOf?_decodeInequality typed)⟩

/-- A conjunction of an open claim and an obligation without its operand, a negation
of an open observation, and a condition on an open date. -/
theorem decode_agrees_with_validate_refused :
    let conjunction : Tree :=
      .claim "and" .and [.placeholder "hole" .claim, .claim "give" .give []]
    let negation : Tree := .observation "neg" .neg [.placeholder "hole" .observation]
    let condition : Tree := .inequality "gte" .timeGte [.placeholder "date" .value]
    (conjunction.type = .claim ∧ conjunction.ReadsAsChecked conjunction.decodeClaim) ∧
    (negation.type = .observation ∧ negation.ReadsAsChecked negation.decodeObservation) ∧
    (condition.type = .inequality ∧ condition.ReadsAsChecked condition.decodeInequality) := by
  intro conjunction negation condition
  exact ⟨⟨rfl, (decode_agrees_with_validate conjunction).1 rfl⟩,
    ⟨rfl, (decode_agrees_with_validate negation).2.1 rfl⟩,
    ⟨rfl, (decode_agrees_with_validate condition).2.2 rfl⟩⟩

end Tree
end ContingentClaims
