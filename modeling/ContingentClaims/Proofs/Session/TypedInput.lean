import ContingentClaims.Proofs.Session.Filling
import ContingentClaims.Proofs.Tree.Places
import ContingentClaims.Proofs.Tree.Shape

/-!
# Typed input

What a session answers to a literal that is typed into a node depends on the node, on the slot
that it occupies and on the text, in this order (`Tree.AnswersInput`). Input that passes these
checks is always taken: a node with the leaf that was read fits the slot, brings no identifier,
and is read back as this leaf (`commitsLiteral`).
-/

namespace ContingentClaims

/-! ## Reading a literal -/

/-- The leaf that a kind reads from a text. -/
def LeafKind.read? : LeafKind -> List Char -> Option Leaf
  | asset, text => some (.asset { id := String.ofList text })
  | decimal, text => (Decimal.ofLiteral? text).map .decimal
  | date, text => (Date.ofIsoChars? text).map .date
  | key, text => some (.key (String.ofList text))

namespace Leaf

/-- A leaf is what the reader for leaves of its kind finds in a node. -/
def IsReadFrom (node : Tree) : Leaf -> Prop
  | asset content => node.decodeAsset = .ok content
  | decimal content => node.decodeDecimal = .ok content
  | date content => node.decodeDate = .ok content
  | key content => node.decodeKey = .ok content

theorem isReadFrom_of_leaf
    {node : Tree}
    {leaf : Leaf}
    (carried : node.leaf = .ok leaf) :
    leaf.IsReadFrom node := by
  cases leaf with
  | asset content => exact (Tree.decodeAsset_eq_ok_iff node content).2 carried
  | decimal content => exact (Tree.decodeDecimal_eq_ok_iff node content).2 carried
  | date content => exact (Tree.decodeDate_eq_ok_iff node content).2 carried
  | key content => exact (Tree.decodeKey_eq_ok_iff node content).2 carried

variable {kind : LeafKind} {literal : String}

theorem ofLiteral_of_blank (blank : Text.trimChars literal.toList = []) :
    ofLiteral kind literal = .error (.empty kind) := by
  simp [ofLiteral, blank]

theorem ofLiteral_of_read?
    {leaf : Leaf}
    (filled : Text.trimChars literal.toList ≠ [])
    (read : kind.read? (Text.trimChars literal.toList) = some leaf) :
    ofLiteral kind literal = .ok leaf := by
  have nonempty : (Text.trimChars literal.toList).isEmpty = false := by simp [filled]
  cases kind with
  | asset =>
      obtain rfl := Option.some.inj read
      simp [ofLiteral, nonempty]
  | key =>
      obtain rfl := Option.some.inj read
      simp [ofLiteral, nonempty]
  | decimal =>
      obtain ⟨value, found, rfl⟩ := Option.map_eq_some_iff.1 read
      simp [ofLiteral, nonempty, found]
  | date =>
      obtain ⟨day, found, rfl⟩ := Option.map_eq_some_iff.1 read
      simp [ofLiteral, nonempty, found]

theorem ofLiteral_decimal_of_unread
    (filled : Text.trimChars literal.toList ≠ [])
    (unread : Decimal.ofLiteral? (Text.trimChars literal.toList) = none) :
    ofLiteral .decimal literal = .error (.invalidDecimal literal) := by
  simp [ofLiteral, filled, unread]

theorem ofLiteral_date_of_unread
    (filled : Text.trimChars literal.toList ≠ [])
    (unread : Date.ofIsoChars? (Text.trimChars literal.toList) = none) :
    ofLiteral .date literal = .error (.invalidDate literal) := by
  simp [ofLiteral, filled, unread]

end Leaf

/-! ## What is answered -/

namespace Tree

/-- The node with an identifier is a value node. -/
def HoldsLeaf
    (root : Tree)
    (id : NodeId) : Prop :=
  ∃ node ∈ root.walk, node.id = id ∧ node.type = .value

/-- The node with an identifier is a value node, and if its slot asks for a kind of leaf then
it is this kind. -/
def TakesKind
    (root : Tree)
    (id : NodeId)
    (kind : LeafKind) : Prop :=
  root.HoldsLeaf id ∧ ∀ expected, root.Occupies id (.leaf expected) -> expected = kind

/-- The answer to a literal that is typed into the node with an identifier. -/
inductive AnswersInput
    (root : Tree)
    (id : NodeId)
    (kind : LeafKind)
    (literal : String) : Except LeafInputError Bool -> Prop
  /-- There is no such node. -/
  | missing (absent : id ∉ root.ids) :
      AnswersInput root id kind literal (.ok false)
  /-- The node is an operator. -/
  | notALeaf
      {node : Tree}
      (present : node ∈ root.walk)
      (named : node.id = id)
      (operator : node.type ≠ .value) :
      AnswersInput root id kind literal (.error (.notALeaf id))
  /-- The node occupies a slot for leaves of another kind. -/
  | wrongKind
      {expected : LeafKind}
      (holds : root.HoldsLeaf id)
      (occupied : root.Occupies id (.leaf expected))
      (different : expected ≠ kind) :
      AnswersInput root id kind literal (.error (.wrongKind id expected kind))
  /-- The literal is blank. -/
  | empty
      (takes : root.TakesKind id kind)
      (blank : Text.trimChars literal.toList = []) :
      AnswersInput root id kind literal (.error (.empty kind))
  /-- The trimmed literal is no number. -/
  | invalidDecimal
      (takes : root.TakesKind id kind)
      (filled : Text.trimChars literal.toList ≠ [])
      (asked : kind = .decimal)
      (unread : Decimal.ofLiteral? (Text.trimChars literal.toList) = none) :
      AnswersInput root id kind literal (.error (.invalidDecimal literal))
  /-- The trimmed literal is no date. -/
  | invalidDate
      (takes : root.TakesKind id kind)
      (filled : Text.trimChars literal.toList ≠ [])
      (asked : kind = .date)
      (unread : Date.ofIsoChars? (Text.trimChars literal.toList) = none) :
      AnswersInput root id kind literal (.error (.invalidDate literal))
  /-- The trimmed literal is read as a leaf. -/
  | taken
      {leaf : Leaf}
      (takes : root.TakesKind id kind)
      (filled : Text.trimChars literal.toList ≠ [])
      (read : kind.read? (Text.trimChars literal.toList) = some leaf) :
      AnswersInput root id kind literal (.ok true)

/-- Every input has an answer. -/
theorem exists_answersInput
    (root : Tree)
    (id : NodeId)
    (kind : LeafKind)
    (literal : String) :
    ∃ answer, root.AnswersInput id kind literal answer := by
  by_cases present : id ∈ root.ids
  swap
  · exact ⟨_, .missing present⟩
  obtain ⟨node, isNode, named⟩ := (mem_ids_iff root id).1 present
  by_cases isLeaf : node.type = .value
  swap
  · exact ⟨_, .notALeaf isNode named isLeaf⟩
  have holds : root.HoldsLeaf id := ⟨node, isNode, named, isLeaf⟩
  by_cases suited : ∀ expected, root.Occupies id (.leaf expected) -> expected = kind
  swap
  · simp only [not_forall] at suited
    obtain ⟨expected, occupied, different⟩ := suited
    exact ⟨_, .wrongKind holds occupied different⟩
  have takes : root.TakesKind id kind := ⟨holds, suited⟩
  by_cases filled : Text.trimChars literal.toList = []
  · exact ⟨_, .empty takes filled⟩
  cases read : kind.read? (Text.trimChars literal.toList) with
  | some leaf => exact ⟨_, .taken takes filled read⟩
  | none =>
      cases kind with
      | asset => cases read
      | key => cases read
      | decimal => exact ⟨_, .invalidDecimal takes filled rfl (Option.map_eq_none_iff.1 read)⟩
      | date => exact ⟨_, .invalidDate takes filled rfl (Option.map_eq_none_iff.1 read)⟩

end Tree

/-! ## Input in a context -/

namespace Context

variable {context : Context} {node : Tree} {kind : LeafKind}

/-- Why the node in a context takes no input of a kind, if it does not. -/
def inputError?
    (context : Context)
    (node : Tree)
    (kind : LeafKind) : Option LeafInputError :=
  if node.type ≠ .value then
    some (.notALeaf node.id)
  else
    match context.slot? with
    | some (.leaf expected) =>
        if expected = kind then none else some (.wrongKind node.id expected kind)
    | _ => none

theorem type_of_inputError? (accepted : context.inputError? node kind = none) :
    node.type = .value := by
  by_contra operator
  simp [inputError?, operator] at accepted

/-- The node of a leaf suits the place of every node that takes input of its kind. -/
theorem suits_of_inputError?
    {subtree : Tree}
    {leaf : Leaf}
    (valid : (context.plug node).Grammatical)
    (accepted : context.inputError? node leaf.kind = none)
    (carried : subtree.leaf = .ok leaf) :
    context.suits node subtree = true := by
  have isLeaf := type_of_inputError? accepted
  cases context with
  | nil =>
      have sameType := ((Tree.leaf_eq_ok_iff subtree leaf).1 carried).1
      simp [suits, slot?, isLeaf, sameType]
  | cons frame outer =>
      obtain ⟨slot, found, fits⟩ := exists_slot?_of_grammatical valid
      have typed := Slot.type_of_accepts fits
      rw [isLeaf] at typed
      cases slot with
      | leaf expected =>
          have same : expected = leaf.kind := by
            simpa [inputError?, isLeaf, found] using accepted
          rw [suits, found, same]
          exact Tree.accepts_of_leaf carried
      | claim | observation | inequality => cases typed

/-- The node of a leaf is spliced in wherever input of its kind is taken. -/
theorem splice?_of_inputError?
    {leaf : Leaf}
    (valid : (context.plug node).Grammatical)
    (distinct : (context.plug node).ids.Nodup)
    (accepted : context.inputError? node leaf.kind = none)
    (source : IdSource) :
    (context.plug node).splice? node.id (leaf.encode.run source).1 =
      some (context.plug ((Part.leaf leaf).node node.id [])) := by
  have encoded := leaf.leaf_encode source
  have noClaim : node.type ≠ .claim := by simp [type_of_inputError? accepted]
  have noChildren : (leaf.encode.run source).1.idsBelow = [] := by
    rw [Tree.idsBelow_eq]
    rfl
  rw [splice?_plug distinct, isElectable_eq_false valid noClaim, Bool.and_false]
  refine ⟨Tree.grammatical_of_leaf encoded, suits_of_inputError? valid accepted encoded, ?_, rfl⟩
  have stays := nodup_plug_takeOver distinct (noChildren ▸ List.nodup_nil)
    (by simp [noChildren]) false
  exact stays

theorem occupies_plug_iff
    (distinct : (context.plug node).ids.Nodup)
    (slot : Slot) :
    (context.plug node).Occupies node.id slot ↔ context.slot? = some slot := by
  rw [← Tree.slotOf?_eq_some_iff distinct, slotOf?_plug distinct]

/-- A node takes input of a kind if nothing is held against it. -/
theorem inputError?_of_takesKind
    (distinct : (context.plug node).ids.Nodup)
    (isLeaf : node.type = .value)
    (takes : (context.plug node).TakesKind node.id kind) :
    context.inputError? node kind = none := by
  simp only [inputError?, isLeaf, ne_eq, not_true_eq_false, if_false]
  split
  next expected found =>
    rw [if_pos (takes.2 expected ((occupies_plug_iff distinct _).2 found))]
  next unasked => rfl

end Context

/-! ## Sessions -/

namespace Session

variable {session : Session} {context : Context} {node : Tree} {kind : LeafKind}
  {literal : String}

theorem inputError?_plug
    (whole : session.root = context.plug node)
    (distinct : session.root.ids.Nodup)
    (kind : LeafKind) :
    session.inputError? node kind = context.inputError? node kind := by
  rw [whole] at distinct
  rw [inputError?, whole, Context.slotOf?_plug distinct]
  rfl

/-- The session in which a leaf stands in the place of the node in a context. -/
def withLeaf
    (session : Session)
    (context : Context)
    (id : NodeId)
    (leaf : Leaf) : Session :=
  { session with
    root := context.plug ((Part.leaf leaf).node id [])
    ids := session.ids.skip 1
    openNode := none
    path := [] }

/-- What becomes of a session when a literal is typed into a node, in terms of the node's
context. -/
theorem setLeaf_plug
    (whole : session.root = context.plug node)
    (valid : session.root.Grammatical)
    (distinct : session.root.ids.Nodup)
    (kind : LeafKind)
    (literal : String) :
    session.setLeaf node.id kind literal =
      match context.inputError? node kind, Leaf.ofLiteral kind literal with
      | some error, _ => (session, .error error)
      | none, .error error => (session, .error error)
      | none, .ok leaf => (session.withLeaf context node.id leaf, .ok true) := by
  have found := Context.find?_of_distinct whole distinct
  have sameError := inputError?_plug whole distinct kind
  cases accepted : context.inputError? node kind with
  | some error => simp [setLeaf_eq, found, sameError, accepted]
  | none =>
      cases read : Leaf.ofLiteral kind literal with
      | error error => simp [setLeaf_eq, found, sameError, accepted, read]
      | ok leaf =>
          obtain ⟨rfl, _⟩ := Leaf.isTyped_of_ofLiteral read
          have spliced := Context.splice?_of_inputError? (whole ▸ valid) (whole ▸ distinct)
            accepted session.ids
          rw [← whole] at spliced
          exact setLeaf_of_splice? found (sameError.trans accepted) read spliced

/-- A literal for a node that takes its kind is taken if it can be read. -/
theorem exists_setLeaf_of_takesKind
    {id : NodeId}
    (valid : session.root.Grammatical)
    (distinct : session.root.ids.Nodup)
    (takes : session.root.TakesKind id kind)
    (literal : String) :
    ∃ (context : Context) (node : Tree),
      session.root = context.plug node ∧ node.id = id ∧
        session.setLeaf id kind literal =
          match Leaf.ofLiteral kind literal with
          | .error error => (session, .error error)
          | .ok leaf => (session.withLeaf context id leaf, .ok true) := by
  obtain ⟨node, present, rfl, isLeaf⟩ := takes.1
  obtain ⟨context, whole⟩ := Tree.exists_context_of_mem_walk present
  refine ⟨context, node, whole, rfl, ?_⟩
  have accepted := Context.inputError?_of_takesKind (whole ▸ distinct) isLeaf (whole ▸ takes)
  rw [setLeaf_plug whole valid distinct, accepted]
  cases Leaf.ofLiteral kind literal <;> rfl

/-- The answer of a session follows the rules. -/
theorem setLeaf_of_answersInput
    {id : NodeId}
    {answer : Except LeafInputError Bool}
    (valid : session.root.Grammatical)
    (distinct : session.root.ids.Nodup)
    (answers : session.root.AnswersInput id kind literal answer) :
    (session.setLeaf id kind literal).2 = answer := by
  cases answers with
  | missing absent => simp [setLeaf_eq, Tree.find?_eq_none absent]
  | notALeaf present named operator =>
      subst named
      obtain ⟨context, whole⟩ := Tree.exists_context_of_mem_walk present
      rw [setLeaf_plug whole valid distinct]
      simp [Context.inputError?, operator]
  | wrongKind holds occupied different =>
      obtain ⟨node, present, rfl, isLeaf⟩ := holds
      obtain ⟨context, whole⟩ := Tree.exists_context_of_mem_walk present
      have found := (Context.occupies_plug_iff (whole ▸ distinct) _).1 (whole ▸ occupied)
      rw [setLeaf_plug whole valid distinct]
      simp [Context.inputError?, isLeaf, found, different]
  | empty takes blank =>
      obtain ⟨_, _, _, _, answered⟩ := exists_setLeaf_of_takesKind valid distinct takes literal
      rw [answered, Leaf.ofLiteral_of_blank blank]
  | invalidDecimal takes filled asked unread =>
      obtain ⟨_, _, _, _, answered⟩ := exists_setLeaf_of_takesKind valid distinct takes literal
      subst asked
      rw [answered, Leaf.ofLiteral_decimal_of_unread filled unread]
  | invalidDate takes filled asked unread =>
      obtain ⟨_, _, _, _, answered⟩ := exists_setLeaf_of_takesKind valid distinct takes literal
      subst asked
      rw [answered, Leaf.ofLiteral_date_of_unread filled unread]
  | taken takes filled read =>
      obtain ⟨_, _, _, _, answered⟩ := exists_setLeaf_of_takesKind valid distinct takes literal
      rw [answered, Leaf.ofLiteral_of_read? filled read]

/-- A literal that is not taken changes nothing. -/
theorem setLeaf_eq_of_refused
    {id : NodeId}
    (valid : session.root.Grammatical)
    (distinct : session.root.ids.Nodup)
    (refused : (session.setLeaf id kind literal).2 ≠ .ok true) :
    (session.setLeaf id kind literal).1 = session := by
  by_cases present : id ∈ session.root.ids
  · obtain ⟨context, node, whole, rfl⟩ := Tree.exists_context_of_mem_ids present
    rw [setLeaf_plug whole valid distinct] at refused ⊢
    split at refused
    next error _ => rfl
    next error _ => rfl
    next leaf _ => exact absurd rfl refused
  · simp [setLeaf_eq, Tree.find?_eq_none present]

/-- What a session does with a literal that is typed into a node. -/
structure CommitsLiteral
    (session : Session)
    (id : NodeId)
    (kind : LeafKind)
    (literal : String) : Prop where
  /-- Each answer is given exactly if its rule applies. -/
  answer_iff :
    ∀ answer, (session.setLeaf id kind literal).2 = answer ↔
      session.root.AnswersInput id kind literal answer
  /-- If the literal is taken, the node keeps its identifier, has otherwise the shape in which
  the leaf is written, and is read back as the leaf. The rest of the tree stays, one name is
  used up and the menu closes. -/
  effect :
    (session.setLeaf id kind literal).2 = .ok true ->
      ∃ (leaf : Leaf) (context : Context) (node typed : Tree),
        kind.read? (Text.trimChars literal.toList) = some leaf ∧
          session.root = context.plug node ∧ node.id = id ∧ typed.id = id ∧
          (∀ source, typed.sameShape (leaf.encode.run source).1 = true) ∧
          leaf.IsReadFrom typed ∧
          (session.setLeaf id kind literal).1 =
            { session with
              root := context.plug typed
              ids := session.ids.skip 1
              openNode := none
              path := [] }
  /-- If it is not taken, nothing changes. -/
  kept :
    (session.setLeaf id kind literal).2 ≠ .ok true ->
      (session.setLeaf id kind literal).1 = session

/-- In a session on a valid tree with distinct identifiers, a literal that is typed into a node
is answered by the rules, and what is taken is read back. -/
theorem commitsLiteral
    (valid : session.root.validate = .ok ())
    (distinct : session.root.ids.Nodup)
    (id : NodeId)
    (kind : LeafKind)
    (literal : String) :
    session.CommitsLiteral id kind literal := by
  have grammatical : session.root.Grammatical := (Tree.validate_eq_ok_iff _).1 valid
  have answer_iff (answer : Except LeafInputError Bool) :
      (session.setLeaf id kind literal).2 = answer ↔
        session.root.AnswersInput id kind literal answer := by
    constructor
    · rintro rfl
      obtain ⟨answer, answers⟩ := session.root.exists_answersInput id kind literal
      rw [setLeaf_of_answersInput grammatical distinct answers]
      exact answers
    · exact setLeaf_of_answersInput grammatical distinct
  refine ⟨answer_iff, ?_, setLeaf_eq_of_refused grammatical distinct⟩
  intro took
  cases (answer_iff _).1 took with
  | @taken leaf takes filled read =>
      obtain ⟨context, node, whole, named, answered⟩ :=
        exists_setLeaf_of_takesKind grammatical distinct takes literal
      rw [Leaf.ofLiteral_of_read? filled read] at answered
      have carried : ((Part.leaf leaf).node id []).leaf = .ok leaf := by
        rw [Tree.leaf_eq_ok_iff]
        exact ⟨rfl, rfl, rfl, rfl⟩
      refine ⟨leaf, context, node, (Part.leaf leaf).node id [], read, whole, named, rfl, ?_,
        Leaf.isReadFrom_of_leaf carried, ?_⟩
      · intro source
        have own := (Tree.sameShape_iff _ _).1 ((Part.leaf leaf).node id []).sameShape_self
        rw [Tree.sameShape_iff]
        exact own
      · rw [answered]
        rfl

/-- An amount with blanks around it goes into an open number. -/
theorem commitsLiteral_amount :
    let amount : Tree := .observation "amount" .const [.placeholder "number" .value]
    let payment : Tree := .claim "payment" .scale [amount, .placeholder "scaled" .claim]
    let catalogs : Catalogs := ⟨⟨.claim, []⟩, ⟨.observation, []⟩, ⟨.inequality, []⟩⟩
    let session : Session := { root := payment, catalogs, ids := { nameAt := fun _ => "expire" } }
    session.root.validate = .ok () ∧ session.root.ids.Nodup ∧
      session.CommitsLiteral "number" .decimal " -1.50 " ∧
      (session.setLeaf "number" .decimal " -1.50 ").2 = .ok true := by
  intro amount payment catalogs session
  have valid : session.root.validate = .ok () := by
    rw [Tree.validate_eq_ok_iff]
    decide
  have distinct : session.root.ids.Nodup := by
    rw [Tree.ids_eq_map]
    decide
  have commits := commitsLiteral valid distinct "number" .decimal " -1.50 "
  refine ⟨valid, distinct, commits, (commits.answer_iff _).2 ?_⟩
  have holds : session.root.HoldsLeaf "number" := by
    refine ⟨.placeholder "number" .value, ?_, rfl, rfl⟩
    rw [Tree.walk_eq_preorder]
    exact .tail _ (.tail _ (.head _))
  have suited (expected : LeafKind) (occupied : session.root.Occupies "number" (.leaf expected)) :
      expected = .decimal := by
    rw [← Tree.slotOf?_eq_some_iff distinct] at occupied
    cases occupied
    rfl
  have read : LeafKind.decimal.read? (Text.trimChars " -1.50 ".toList) =
      some (.decimal ⟨true, 150, 2, by decide, by decide⟩) := by
    decide
  exact .taken ⟨holds, suited⟩ (by decide) read

end Session
end ContingentClaims
