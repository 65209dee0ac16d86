import ContingentClaims.Proofs.Session.TypedInput
import ContingentClaims.Proofs.Session.Types
import ContingentClaims.Proofs.Tree.Fork

/-!
# Independent edits

An edit of a node looks at the node and at its place, and at the rest of the tree only for the
identifiers in use (`perform_plug`). So two edits of nodes that are not below each other have
the same answers and the same outcome in either order, if the identifiers that they bring are
new to the tree and different from each other (`commute_of_apart`), and several such edits may
be made in any order (`performAll_perm`).
-/

namespace ContingentClaims

/-! ## Edits of a node -/

namespace Operation

/-- The node that an operation edits directly. -/
def edited? : Operation -> Option NodeId
  | replace id _ => some id
  | setLabel id _ => some id
  | setLeaf id _ _ => some id
  | _ => none

/-- The identifiers that an edit brings into the tree. -/
def brought : Operation -> List NodeId
  | replace _ subtree => subtree.idsBelow
  | _ => []

end Operation

namespace Context

/-- What an edit makes of the node in a context, or how it is refused, if the identifiers that
it brings occur nowhere in the tree. -/
def edit
    (context : Context)
    (locked : Bool)
    (node : Tree) : Operation -> Except Answer Tree
  | .replace _ subtree =>
      if subtree.isValid && context.suits node subtree && decide subtree.idsBelow.Nodup then
        .ok (subtree.takeOver (subtree.text.isNone && context.isElectable) node)
      else
        .error (.effect false)
  | .setLabel _ label =>
      if !locked && (context.isElectable && node.text != some label) then
        .ok (node.withText label)
      else
        .error (.effect false)
  | .setLeaf _ kind literal =>
      match context.inputError? node kind, Leaf.ofLiteral kind literal with
      | some error, _ => .error (.refused error)
      | none, .error error => .error (.refused error)
      | none, .ok leaf => .ok ((Part.leaf leaf).node node.id [])
  | _ => .error .done

/-- The node that an edit leaves in its place. -/
def editedNode
    (context : Context)
    (locked : Bool)
    (node : Tree)
    (operation : Operation) : Tree :=
  (context.edit locked node operation).toOption.getD node

/-- Of the context only the place matters. -/
theorem edit_congr
    {context other : Context}
    (same : context.SamePlace other)
    (locked : Bool)
    (node : Tree)
    (operation : Operation) :
    context.edit locked node operation = other.edit locked node operation := by
  have sameSuits : context.suits = other.suits := by
    funext node subtree
    rw [suits, suits, same.slot]
  have sameError : context.inputError? = other.inputError? := by
    funext node kind
    rw [inputError?, inputError?, same.slot]
  cases operation with
  | replace target subtree => rw [edit, edit, sameSuits, same.electable]
  | setLabel target label => rw [edit, edit, same.electable]
  | setLeaf target kind literal => rw [edit, edit, sameError]
  | _ => rfl

variable {context : Context} {node changed : Tree} {locked : Bool} {operation : Operation}

/-- The identifiers of the edited node are brought by the edit or were there before. -/
theorem mem_ids_of_edit
    {id : NodeId}
    (edited : context.edit locked node operation = .ok changed)
    (present : id ∈ changed.ids) :
    id ∈ operation.brought ∨ id ∈ node.ids := by
  have own : node.id ∈ node.ids := by
    rw [Tree.ids_eq]
    exact .head _
  cases operation with
  | replace target subtree =>
      rw [edit] at edited
      split at edited
      next admissible =>
        cases edited
        rw [Tree.ids_takeOver, List.mem_cons] at present
        rcases present with rfl | isBelow
        · exact .inr own
        · exact .inl isBelow
      next refused => cases edited
  | setLabel target label =>
      rw [edit] at edited
      split at edited
      next allowed =>
        cases edited
        rw [Tree.ids_withText] at present
        exact .inr present
      next refused => cases edited
  | setLeaf target kind literal =>
      rw [edit] at edited
      split at edited
      next error refused => cases edited
      next error accepted unread => cases edited
      next leaf accepted read =>
        cases edited
        rw [Tree.ids_eq, List.mem_cons] at present
        rcases present with rfl | isBelow
        · exact .inr own
        · cases isBelow
  | _ => cases edited

/-- An identifier behind an edit is brought by it or was there before. -/
theorem mem_ids_plug_editedNode
    {id : NodeId}
    (present : id ∈ (context.plug (context.editedNode locked node operation)).ids) :
    id ∈ operation.brought ∨ id ∈ (context.plug node).ids := by
  cases edited : context.edit locked node operation with
  | error answer =>
      rw [editedNode, edited] at present
      exact .inr present
  | ok changed =>
      rw [editedNode, edited, ids_plug, List.mem_append, List.mem_append] at present
      rw [ids_plug, List.mem_append, List.mem_append]
      rcases present with (isBefore | isChanged) | isBehind
      · exact .inr (.inl (.inl isBefore))
      · exact (mem_ids_of_edit edited isChanged).imp_right fun old => .inl (.inr old)
      · exact .inr (.inr isBehind)

/-- A subtree with new identifiers is spliced in if it is valid, suits the place, and has no
identifier twice. -/
theorem splice?_of_new
    {subtree : Tree}
    (distinct : (context.plug node).ids.Nodup)
    (new : ∀ id ∈ subtree.idsBelow, id ∉ (context.plug node).ids) :
    (context.plug node).splice? node.id subtree =
      if subtree.isValid && context.suits node subtree && decide subtree.idsBelow.Nodup then
        some (context.plug (subtree.takeOver (subtree.text.isNone && context.isElectable) node))
      else
        none := by
  split
  next admissible =>
    simp only [Bool.and_eq_true, decide_eq_true_eq, Tree.isValid_iff] at admissible
    obtain ⟨⟨valid, suitable⟩, below⟩ := admissible
    rw [splice?_plug distinct]
    exact ⟨valid, suitable, nodup_plug_takeOver distinct below new _, rfl⟩
  next inadmissible =>
    simp only [Bool.and_eq_true, decide_eq_true_eq, Tree.isValid_iff] at inadmissible
    by_contra spliced
    obtain ⟨changed, spliced⟩ := Option.ne_none_iff_exists'.1 spliced
    obtain ⟨valid, suitable, stays, rfl⟩ := (splice?_plug distinct subtree changed).1 spliced
    rw [ids_plug, Tree.ids_takeOver] at stays
    have below : subtree.idsBelow.Nodup := stays.of_append_left.of_append_right.of_cons
    exact inadmissible ⟨⟨valid, suitable⟩, below⟩

end Context

/-! ## Edits in a session -/

namespace Session

variable {session : Session}

/-- The session after an edit that took effect and left a tree. -/
def edited
    (session : Session)
    (operation : Operation)
    (root : Tree) : Session :=
  match operation with
  | .replace _ _ => { session with root, openNode := none, path := [] }
  | .setLeaf _ _ _ =>
      { session with root, ids := session.ids.skip 1, openNode := none, path := [] }
  | _ => { session with root }

/-- The last edit decides on the tree, and nothing else depends on the order. -/
theorem edited_edited
    (session : Session)
    (first second : Operation)
    (one other root : Tree) :
    (session.edited first one).edited second root =
      (session.edited second other).edited first root := by
  cases first <;> cases second <;> rfl

@[simp] theorem root_edited
    (session : Session)
    (operation : Operation)
    (root : Tree) :
    (session.edited operation root).root = root := by
  cases operation <;> rfl

@[simp] theorem locked_edited
    (session : Session)
    (operation : Operation)
    (root : Tree) :
    (session.edited operation root).locked = session.locked := by
  cases operation <;> rfl

/-- What a session makes of an edit, in terms of the context of the node. -/
def settle
    (session : Session)
    (operation : Operation)
    (context : Context) : Except Answer Tree -> Session × Answer
  | .error answer => (session, answer)
  | .ok changed => (session.edited operation (context.plug changed), .effect true)

/-- What becomes of a session under an edit is decided at the place of the node, if the
identifiers that the edit brings are new to the tree. -/
theorem perform_plug
    {context : Context}
    {node : Tree}
    {operation : Operation}
    (whole : session.root = context.plug node)
    (valid : session.root.Grammatical)
    (distinct : session.root.ids.Nodup)
    (edits : operation.edited? = some node.id)
    (new : ∀ id ∈ operation.brought, id ∉ session.root.ids) :
    session.perform operation =
      session.settle operation context (context.edit session.locked node operation) := by
  cases operation with
  | replace target subtree =>
      obtain rfl := Option.some.inj edits
      have splices := Context.splice?_of_new (whole ▸ distinct) (whole ▸ new)
      rw [← whole] at splices
      simp only [perform, replace, splices, Context.edit]
      cases (subtree.isValid && context.suits node subtree && decide subtree.idsBelow.Nodup) <;> rfl
  | setLabel target label =>
      obtain rfl := Option.some.inj edits
      have relabels := Context.relabel?_plug (whole ▸ distinct) label
      rw [← whole] at relabels
      rw [perform, setLabel, relabels, Context.edit]
      cases locked : session.locked with
      | true => rfl
      | false =>
          cases (context.isElectable && node.text != some label) <;>
            simp [settle, edited, locked]
  | setLeaf target kind literal =>
      obtain rfl := Option.some.inj edits
      rw [perform, setLeaf_plug whole valid distinct kind literal, Context.edit]
      cases context.inputError? node kind with
      | some error => rfl
      | none => cases Leaf.ofLiteral kind literal <;> rfl
  | _ => cases edits

theorem locked_settle
    (session : Session)
    (operation : Operation)
    (context : Context)
    (outcome : Except Answer Tree) :
    (session.settle operation context outcome).1.locked = session.locked := by
  cases outcome with
  | error answer => rfl
  | ok changed => exact session.locked_edited operation _

/-- The answer does not depend on the session or the context. -/
theorem answer_settle
    (session other : Session)
    (operation : Operation)
    (context around : Context)
    (outcome : Except Answer Tree) :
    (session.settle operation context outcome).2 = (other.settle operation around outcome).2 := by
  cases outcome <;> rfl

theorem root_settle
    {context : Context}
    {node : Tree}
    (whole : session.root = context.plug node)
    (operation : Operation)
    (outcome : Except Answer Tree) :
    (session.settle operation context outcome).1.root =
      context.plug (outcome.toOption.getD node) := by
  cases outcome with
  | error answer => exact whole
  | ok changed => exact session.root_edited operation _

/-- What two edits make of a session does not depend on their order. -/
theorem settle_settle
    (session : Session)
    (fork : Fork)
    (left right : Tree)
    (first second : Operation)
    (leftOutcome rightOutcome : Except Answer Tree) :
    ((session.settle first (fork.left right) leftOutcome).1.settle second
        (fork.right (leftOutcome.toOption.getD left)) rightOutcome).1 =
      ((session.settle second (fork.right left) rightOutcome).1.settle first
        (fork.left (rightOutcome.toOption.getD right)) leftOutcome).1 := by
  cases leftOutcome with
  | error leftAnswer => cases rightOutcome <;> rfl
  | ok leftChanged =>
      cases rightOutcome with
      | error rightAnswer => rfl
      | ok rightChanged =>
          have joined := fork.plug_comm leftChanged rightChanged
          simp only [settle, Except.toOption, Option.getD_some, joined]
          exact edited_edited session first second _ _ _

/-! ## Two edits -/

/-- Edits of two nodes, neither below the other, that bring no identifier which is in use or
which the other one brings. -/
structure EditsApart
    (session : Session)
    (left right : Tree)
    (first second : Operation) : Prop where
  leftPresent : left ∈ session.root.walk
  rightPresent : right ∈ session.root.walk
  notBelow : right ∉ left.walk
  notAbove : left ∉ right.walk
  editsLeft : first.edited? = some left.id
  editsRight : second.edited? = some right.id
  firstNew : ∀ id ∈ first.brought, id ∉ session.root.ids
  secondNew : ∀ id ∈ second.brought, id ∉ session.root.ids
  disjoint : ∀ id ∈ first.brought, id ∉ second.brought

namespace EditsApart

variable {fork : Fork} {left right : Tree} {first second : Operation}

theorem symm (apart : session.EditsApart left right first second) :
    session.EditsApart right left second first where
  leftPresent := apart.rightPresent
  rightPresent := apart.leftPresent
  notBelow := apart.notAbove
  notAbove := apart.notBelow
  editsLeft := apart.editsRight
  editsRight := apart.editsLeft
  firstNew := apart.secondNew
  secondNew := apart.firstNew
  disjoint id isSecond isFirst := apart.disjoint id isFirst isSecond

theorem exists_fork (apart : session.EditsApart left right first second) :
    ∃ fork : Fork, session.root = fork.plug left right := by
  have leftPresent := apart.leftPresent
  have rightPresent := apart.rightPresent
  have notBelow := apart.notBelow
  have notAbove := apart.notAbove
  rw [Tree.walk_eq_preorder] at leftPresent rightPresent notBelow notAbove
  exact Tree.exists_fork leftPresent rightPresent notBelow notAbove

variable
  (apart : session.EditsApart left right first second)
  (valid : session.root.Grammatical)
  (distinct : session.root.ids.Nodup)

include apart valid distinct

theorem perform_left (whole : session.root = fork.plug left right) :
    session.perform first =
      session.settle first (fork.left right)
        ((fork.left right).edit session.locked left first) :=
  perform_plug whole valid distinct apart.editsLeft apart.firstNew

/-- The first edit leaves the other node where it is. -/
theorem root_perform (whole : session.root = fork.plug left right) :
    (session.perform first).1.root =
      fork.plug ((fork.left right).editedNode session.locked left first) right := by
  rw [apart.perform_left valid distinct whole]
  exact root_settle whole first _

theorem present_perform : right ∈ (session.perform first).1.root.walk := by
  obtain ⟨fork, whole⟩ := apart.exists_fork
  rw [apart.root_perform valid distinct whole, fork.plug_eq_right, Tree.walk_eq_preorder]
  exact Context.mem_preorder_plug _ right

/-- What the second edit brings is new after the first as well. -/
theorem new_perform : ∀ id ∈ second.brought, id ∉ (session.perform first).1.root.ids := by
  intro id isSecond present
  obtain ⟨fork, whole⟩ := apart.exists_fork
  rw [apart.root_perform valid distinct whole] at present
  rcases Context.mem_ids_plug_editedNode present with isFirst | isOld
  · exact apart.disjoint id isFirst isSecond
  · exact apart.secondNew id isSecond (whole ▸ isOld)

/-- The second edit is refused or made as if the first had not been there. -/
theorem perform_perform (whole : session.root = fork.plug left right) :
    (session.perform first).1.perform second =
      (session.perform first).1.settle second
        (fork.right ((fork.left right).editedNode session.locked left first))
        ((fork.right left).edit session.locked right second) := by
  have laterWhole := apart.root_perform valid distinct whole
  rw [fork.plug_eq_right] at laterWhole
  have laterValid : (session.perform first).1.root.Grammatical :=
    performAll_keeps Tree.Grammatical.edit valid [first]
  have laterDistinct : (session.perform first).1.root.ids.Nodup :=
    performAll_keeps Tree.nodup_ids_edit distinct [first]
  have sameLock : (session.perform first).1.locked = session.locked := by
    rw [apart.perform_left valid distinct whole]
    exact locked_settle session first _ _
  rw [perform_plug laterWhole laterValid laterDistinct apart.editsRight
    (apart.new_perform valid distinct), sameLock,
    Context.edit_congr (fork.right_samePlace _ left)]

/-- The second edit has the same answer after the first. -/
theorem answer_perform :
    ((session.perform first).1.perform second).2 = (session.perform second).2 := by
  obtain ⟨fork, whole⟩ := apart.exists_fork
  have wholeBack := whole.trans (fork.plug_swap left right).symm
  rw [apart.perform_perform valid distinct whole,
    apart.symm.perform_left valid distinct wholeBack]
  apply answer_settle

/-- Both orders lead to the same session. -/
theorem perform_comm :
    ((session.perform first).1.perform second).1 =
      ((session.perform second).1.perform first).1 := by
  obtain ⟨fork, whole⟩ := apart.exists_fork
  have wholeBack := whole.trans (fork.plug_swap left right).symm
  rw [apart.perform_perform valid distinct whole,
    apart.symm.perform_perform valid distinct wholeBack,
    apart.perform_left valid distinct whole, apart.symm.perform_left valid distinct wholeBack]
  apply settle_settle

/-- Each edit makes the same of its node, whether it is made alone or with the other one. -/
theorem merges :
    ∃ (fork : Fork) (leftChanged rightChanged : Tree),
      session.root = fork.plug left right ∧
        (session.perform first).1.root = fork.plug leftChanged right ∧
        (session.perform second).1.root = fork.plug left rightChanged ∧
        ((session.perform first).1.perform second).1.root =
          fork.plug leftChanged rightChanged := by
  obtain ⟨fork, whole⟩ := apart.exists_fork
  have wholeBack := whole.trans (fork.plug_swap left right).symm
  have firstRoot := apart.root_perform valid distinct whole
  have secondRoot := apart.symm.root_perform valid distinct wholeBack
  rw [fork.plug_swap] at secondRoot
  refine ⟨fork, _, _, whole, firstRoot, secondRoot, ?_⟩
  rw [fork.plug_eq_right] at firstRoot
  rw [apart.perform_perform valid distinct whole, root_settle firstRoot, fork.plug_eq_right]
  rfl

end EditsApart

/-- Edits of two nodes have the same answers and the same outcome in either order. -/
structure Commute
    (session : Session)
    (left right : Tree)
    (first second : Operation) : Prop where
  /-- The first is answered after the second as before it. -/
  first_answer :
    ((session.perform second).1.perform first).2 = (session.perform first).2
  /-- The second is answered after the first as before it. -/
  second_answer :
    ((session.perform first).1.perform second).2 = (session.perform second).2
  /-- Both orders lead to the same session. -/
  outcome :
    ((session.perform first).1.perform second).1 = ((session.perform second).1.perform first).1
  /-- Each node comes out as its edit alone leaves it. -/
  merged :
    ∃ (fork : Fork) (leftChanged rightChanged : Tree),
      session.root = fork.plug left right ∧
        (session.perform first).1.root = fork.plug leftChanged right ∧
        (session.perform second).1.root = fork.plug left rightChanged ∧
        ((session.perform first).1.perform second).1.root = fork.plug leftChanged rightChanged

/-- Edits of two nodes, neither below the other, commute if the identifiers that they bring are
new to the tree and different from each other. -/
theorem commute_of_apart
    {left right : Tree}
    {first second : Operation}
    (valid : session.root.validate = .ok ())
    (distinct : session.root.ids.Nodup)
    (apart : session.EditsApart left right first second) :
    session.Commute left right first second := by
  have grammatical : session.root.Grammatical := (Tree.validate_eq_ok_iff _).1 valid
  refine ⟨?_, ?_, ?_, ?_⟩
  · exact apart.symm.answer_perform grammatical distinct
  · exact apart.answer_perform grammatical distinct
  · exact apart.perform_comm grammatical distinct
  · exact apart.merges grammatical distinct

/-- One alternative is filled in while the other one gets a label. -/
theorem commute_of_apart_alternatives :
    let expire : Tree := .claim "expire" .zero []
    let exercise : Tree := .placeholder "exercise" .claim
    let choice : Tree := .claim "choice" .or [expire, exercise]
    let gift : Tree := .claim "gift" .give [.placeholder "given" .claim]
    let catalogs : Catalogs := ⟨⟨.claim, []⟩, ⟨.observation, []⟩, ⟨.inequality, []⟩⟩
    let session : Session := { root := choice, catalogs, ids := { nameAt := fun _ => "expire" } }
    let first : Operation := .setLabel "expire" "Expire"
    let second : Operation := .replace "exercise" gift
    session.root.validate = .ok () ∧ session.root.ids.Nodup ∧
      session.EditsApart expire exercise first second ∧
      session.Commute expire exercise first second := by
  intro expire exercise choice gift catalogs session first second
  have valid : session.root.validate = .ok () := by
    rw [Tree.validate_eq_ok_iff]
    decide
  have distinct : session.root.ids.Nodup := by
    rw [Tree.ids_eq_map]
    decide
  have apart : session.EditsApart expire exercise first second := by
    refine ⟨?_, ?_, ?_, ?_, rfl, rfl, List.forall_mem_nil _, ?_, List.forall_mem_nil _⟩
    · rw [Tree.walk_eq_preorder]
      exact .tail _ (.head _)
    · rw [Tree.walk_eq_preorder]
      exact .tail _ (.tail _ (.head _))
    · rw [Tree.walk_eq_preorder]
      intro below
      exact absurd (congrArg Tree.id (List.mem_singleton.1 below)) (by decide)
    · rw [Tree.walk_eq_preorder]
      intro above
      exact absurd (congrArg Tree.id (List.mem_singleton.1 above)) (by decide)
    · rw [Tree.ids_eq_map, Operation.brought, Tree.idsBelow, Tree.ids_eq_map]
      decide
  exact ⟨valid, distinct, apart, commute_of_apart valid distinct apart⟩

/-! ## Any number of edits -/

/-- Two operations edit different parts of the tree. -/
def Independent
    (session : Session)
    (first second : Operation) : Prop :=
  ∃ left right, session.EditsApart left right first second

theorem Independent.symm
    {first second : Operation}
    (independent : session.Independent first second) :
    session.Independent second first := by
  obtain ⟨left, right, apart⟩ := independent
  exact ⟨right, left, apart.symm⟩

/-- Of three independent edits, the others are independent after the first. -/
theorem Independent.perform
    {first second third : Operation}
    (firstSecond : session.Independent first second)
    (firstThird : session.Independent first third)
    (secondThird : session.Independent second third)
    (valid : session.root.Grammatical)
    (distinct : session.root.ids.Nodup) :
    (session.perform first).1.Independent second third := by
  obtain ⟨_, right, besideSecond⟩ := firstSecond
  obtain ⟨_, other, besideThird⟩ := firstThird
  obtain ⟨right', other', apart⟩ := secondThird
  obtain rfl : right' = right := Tree.eq_of_id_eq distinct apart.leftPresent
    besideSecond.rightPresent (Option.some.inj (apart.editsLeft.symm.trans besideSecond.editsRight))
  obtain rfl : other' = other := Tree.eq_of_id_eq distinct apart.rightPresent
    besideThird.rightPresent (Option.some.inj (apart.editsRight.symm.trans besideThird.editsRight))
  exact ⟨right', other', {
    leftPresent := besideSecond.present_perform valid distinct
    rightPresent := besideThird.present_perform valid distinct
    notBelow := apart.notBelow
    notAbove := apart.notAbove
    editsLeft := apart.editsLeft
    editsRight := apart.editsRight
    firstNew := besideSecond.new_perform valid distinct
    secondNew := besideThird.new_perform valid distinct
    disjoint := apart.disjoint }⟩

/-- Independent edits lead to the same session in whatever order they are made. -/
theorem performAll_perm
    {operations reordered : List Operation}
    (order : operations.Perm reordered)
    (valid : session.root.Grammatical)
    (distinct : session.root.ids.Nodup)
    (independent : operations.Pairwise session.Independent) :
    session.performAll operations = session.performAll reordered := by
  induction order generalizing session with
  | nil => rfl
  | cons operation order restHypothesis =>
      obtain ⟨others, independent⟩ := List.pairwise_cons.1 independent
      rw [performAll_cons, performAll_cons]
      apply restHypothesis
      · exact performAll_keeps Tree.Grammatical.edit valid [operation]
      · exact performAll_keeps Tree.nodup_ids_edit distinct [operation]
      · refine independent.imp_of_mem fun isSecond isThird secondThird => ?_
        exact (others _ isSecond).perform (others _ isThird) secondThird valid distinct
  | swap first second rest =>
      obtain ⟨others, _⟩ := List.pairwise_cons.1 independent
      obtain ⟨left, right, apart⟩ := others first (.head _)
      simp only [performAll_cons, apart.perform_comm valid distinct]
  | trans order _ firstHypothesis secondHypothesis =>
      have stillIndependent := (order.pairwise_iff Independent.symm).1 independent
      exact (firstHypothesis valid distinct independent).trans
        (secondHypothesis valid distinct stillIndependent)

end Session
end ContingentClaims
