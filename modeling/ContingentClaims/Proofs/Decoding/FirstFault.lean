import ContingentClaims.Proofs.Decoding.Agreement
import ContingentClaims.Proofs.Tree.Context
import ContingentClaims.Script.Run
import Mathlib.Data.List.Find

/-!
# Which of several faults is reported

A tree may have several faults: open slots and nodes that break the grammar. The
check of a whole tree and the search for the next slot of a script take the first
one in pre-order, the decoder the first one in reading order. The two orders differ
below a conjunction or a choice, whose first two operands are read last: a fault in
them is overtaken by a fault in a later operand. This is the only way in which the
decoder misses the first fault, and it happens in trees of claims only.
-/

namespace ContingentClaims
namespace Tree

/-! ## The first fault -/

/-- Whether a node is an open slot or is refused by the check. -/
def isFaulty (node : Tree) : Bool :=
  node.isPlaceholder || node.fault?.isSome

/-- The first node in pre-order that is an open slot or is refused. -/
def firstFault? (tree : Tree) : Option Tree :=
  tree.walk.find? isFaulty

/-- A failed reading reports the first fault. -/
structure ReportsFirstFault
    {α : Type}
    (tree : Tree)
    (result : Except TreeError α) : Prop where
  /-- The error is that of the first node in pre-order that is open or refused, and it
  is an incompleteness exactly if this node is open. -/
  names_first :
    ∀ error, result = .error error ->
      ∃ node, tree.firstFault? = some node ∧ error.nodeId = node.id ∧
        error.nodeTag = node.tag ∧ error.isIncomplete = node.isPlaceholder
  /-- Of a tree without open slots, the error is the one that the check of the tree
  reports. -/
  names_refused :
    tree.isComplete = true ->
      ∀ error, result = .error error -> tree.validate = .error error
  /-- Of a valid tree, the error names the slot that a step without a node acts on. -/
  names_next_slot :
    tree.validate = .ok () ->
      ∀ error, result = .error error ->
        ∀ session : Session, session.root = tree ->
          session.targetOf none = .ok error.nodeId

/-- The first two operands of a node are read last, and there is a fault in these and
one behind them. -/
def SwapsFaults (node : Tree) : Prop :=
  node.readsFirstTwoLast = true ∧
    (∃ operand ∈ node.children.take 2, operand.firstFault?.isSome) ∧
      ∃ operand ∈ node.children.drop 2, operand.firstFault?.isSome

/-- The first fault of a tree is overtaken: on the way to it there is a conjunction or
a choice with a fault in its first two operands and one behind them. -/
inductive Overtaken : Tree -> Prop
  /-- The conjunction or choice itself. -/
  | here
      {node : Tree}
      (blameless : node.isFaulty = false)
      (swaps : node.SwapsFaults) :
      Overtaken node
  /-- A node above it, whose operands up to there have no fault. -/
  | inside
      {node child : Tree}
      {before behind : List Tree}
      (blameless : node.isFaulty = false)
      (split : node.children = before ++ child :: behind)
      (faultless : ∀ operand ∈ before, operand.firstFault? = none)
      (overtaken : child.Overtaken) :
      Overtaken node

/-! ## Faults and blame -/

theorem isFaulty_eq (node : Tree) : node.isFaulty = node.blame?.isSome := by
  unfold isFaulty blame?
  cases node.isPlaceholder <;> simp

theorem isFaulty_eq_false_iff (node : Tree) :
    node.isFaulty = false ↔ node.blame? = none := by
  rw [isFaulty_eq, Option.isSome_eq_false_iff, Option.isNone_iff_eq_none]

/-- The first fault is the one whose error comes first. -/
theorem firstBlame?_eq_bind (nodes : List Tree) :
    firstBlame? nodes = (nodes.find? isFaulty).bind blame? := by
  unfold firstBlame?
  induction nodes with
  | nil => rfl
  | cons node rest restHypothesis =>
      cases blamed : node.blame? with
      | some error => simp [isFaulty_eq, blamed]
      | none => simpa [isFaulty_eq, blamed] using restHypothesis

theorem firstFault?_eq (tree : Tree) :
    tree.firstFault? = tree.preorder.find? isFaulty := by
  rw [firstFault?, walk_eq_preorder]

theorem firstBlame?_preorder (tree : Tree) :
    firstBlame? tree.preorder = tree.firstFault?.bind blame? := by
  rw [firstBlame?_eq_bind, firstFault?_eq]

theorem firstFault?_eq_none_iff (tree : Tree) :
    tree.firstFault? = none ↔ firstBlame? tree.preorder = none := by
  rw [firstFault?_eq, List.find?_eq_none, firstBlame?, List.findSome?_eq_none_iff]
  simp only [Bool.not_eq_true, isFaulty_eq_false_iff]

/-- Whether there is a fault does not depend on the order. -/
theorem firstBlame?_reading_eq_none_iff_preorder (tree : Tree) :
    firstBlame? tree.reading = none ↔ firstBlame? tree.preorder = none := by
  simp only [firstBlame?, List.findSome?_eq_none_iff, tree.reading_perm_preorder.mem_iff]

theorem firstBlame?_flatMap_eq_none_iff
    (order : Tree -> List Tree)
    (trees : List Tree) :
    firstBlame? (trees.flatMap order) = none ↔
      ∀ tree ∈ trees, firstBlame? (order tree) = none := by
  induction trees with
  | nil => simp
  | cons tree rest restHypothesis => simp [restHypothesis]

/-- A list of trees without faults has none in reading order either. -/
theorem firstBlame?_flatMap_reading_eq_none_iff (trees : List Tree) :
    firstBlame? (trees.flatMap reading) = none ↔
      ∀ tree ∈ trees, tree.firstFault? = none := by
  simp only [firstBlame?_flatMap_eq_none_iff, firstBlame?_reading_eq_none_iff_preorder,
    firstFault?_eq_none_iff]

theorem firstBlame?_flatMap_preorder_eq_none_iff (trees : List Tree) :
    firstBlame? (trees.flatMap preorder) = none ↔
      ∀ tree ∈ trees, tree.firstFault? = none := by
  simp only [firstBlame?_flatMap_eq_none_iff, firstFault?_eq_none_iff]

/-- An error names the node that is to blame, and says whether it is open. -/
theorem names_of_blame?
    {node : Tree}
    {error : TreeError}
    (blamed : node.blame? = some error) :
    error.nodeId = node.id ∧ error.nodeTag = node.tag ∧
      error.isIncomplete = node.isPlaceholder := by
  unfold blame? at blamed
  split at blamed
  next hole =>
    obtain rfl := Option.some.inj blamed
    exact ⟨rfl, rfl, hole.symm⟩
  next filled =>
    obtain ⟨defect, found, rfl⟩ := Option.map_eq_some_iff.1 blamed
    exact ⟨rfl, rfl, (Bool.not_eq_true _ ▸ filled).symm⟩

/-- The identifier in an error is one of the trees that are searched. -/
theorem nodeId_mem_idsOfAll
    {order : Tree -> List Tree}
    {trees : List Tree}
    {error : TreeError}
    (lists : ∀ tree : Tree, (order tree).Perm tree.preorder)
    (reported : firstBlame? (trees.flatMap order) = some error) :
    error.nodeId ∈ idsOfAll trees := by
  obtain ⟨node, present, blamed⟩ := List.exists_of_findSome?_eq_some reported
  obtain ⟨tree, isTree, within⟩ := List.mem_flatMap.1 present
  rw [(names_of_blame? blamed).1, idsOfAll, List.mem_flatMap]
  refine ⟨tree, isTree, ?_⟩
  rw [ids_eq_map]
  exact List.mem_map_of_mem ((lists tree).mem_iff.1 within)

/-! ## Reading order against pre-order -/

theorem firstBlame?_preorder_of_blameless
    {node : Tree}
    (blameless : node.isFaulty = false) :
    firstBlame? node.preorder = firstBlame? (node.children.flatMap preorder) := by
  have alone : firstBlame? [node] = none := by
    simp [firstBlame?, (isFaulty_eq_false_iff node).1 blameless]
  rw [preorder_eq, preorderAll_eq_flatMap, ← List.singleton_append, firstBlame?_append,
    alone, Option.none_or]

theorem firstBlame?_reading_of_blameless
    {node : Tree}
    (blameless : node.isFaulty = false) :
    firstBlame? node.reading = firstBlame? node.readingBelow := by
  rw [firstBlame?_reading, (isFaulty_eq_false_iff node).1 blameless, Option.none_or]

/-- What is read below a node whose first two operands come last. -/
theorem firstBlame?_readingBelow_of_late
    {node : Tree}
    (late : node.readsFirstTwoLast = true) :
    firstBlame? node.readingBelow =
      (firstBlame? ((node.children.drop 2).flatMap reading)).or
        (firstBlame? ((node.children.take 2).flatMap reading)) := by
  rw [readingBelow, if_pos late, readings_eq_map, List.flatten_append, ← List.map_drop,
    ← List.map_take, ← List.flatMap_def, ← List.flatMap_def, firstBlame?_append]

/-- The operands are as good as read in order, unless the node swaps faults. -/
theorem firstBlame?_readingBelow
    {node : Tree}
    (keeps : ¬ node.SwapsFaults) :
    firstBlame? node.readingBelow = firstBlame? (node.children.flatMap reading) := by
  cases late : node.readsFirstTwoLast with
  | false => rw [readingBelow, late, readings_eq_map, List.flatMap_def]; rfl
  | true =>
      have oneSided :
          firstBlame? ((node.children.take 2).flatMap reading) = none ∨
            firstBlame? ((node.children.drop 2).flatMap reading) = none := by
        simp only [firstBlame?_flatMap_reading_eq_none_iff]
        by_contra both
        simp only [not_or, not_forall, exists_prop, ← ne_eq,
          Option.ne_none_iff_isSome] at both
        exact keeps ⟨late, both⟩
      have whole :
          firstBlame? (node.children.flatMap reading) =
            (firstBlame? ((node.children.take 2).flatMap reading)).or
              (firstBlame? ((node.children.drop 2).flatMap reading)) := by
        rw [← firstBlame?_append, ← List.flatMap_append, List.take_append_drop]
      rw [firstBlame?_readingBelow_of_late late, whole]
      rcases oneSided with early | behind
      · rw [early, Option.none_or, Option.or_none]
      · rw [behind, Option.none_or, Option.or_none]

/-- In trees one after the other, only the first one with a fault counts. -/
theorem firstBlame?_flatMap_congr
    (trees : List Tree)
    (same :
      ∀ before tree behind, trees = before ++ tree :: behind ->
        (∀ earlier ∈ before, earlier.firstFault? = none) ->
          firstBlame? tree.reading = firstBlame? tree.preorder) :
    firstBlame? (trees.flatMap reading) = firstBlame? (trees.flatMap preorder) := by
  induction trees with
  | nil => rfl
  | cons tree rest restHypothesis =>
      have sameTree : firstBlame? tree.reading = firstBlame? tree.preorder := by
        apply same [] tree rest rfl
        simp
      rw [List.flatMap_cons, List.flatMap_cons, firstBlame?_append, firstBlame?_append,
        sameTree]
      cases found : firstBlame? tree.preorder with
      | some error => rfl
      | none =>
          rw [Option.none_or, Option.none_or]
          apply restHypothesis
          intro before later behind split faultless
          apply same (tree :: before) later behind
          · rw [split, List.cons_append]
          · intro earlier present
            rcases List.mem_cons.1 present with rfl | present
            · rw [firstFault?_eq_none_iff, found]
            · exact faultless earlier present

/-- Unless the first fault is overtaken, it also comes first in reading order. -/
theorem firstBlame?_reading_eq_preorder
    {tree : Tree}
    (ordered : ¬ tree.Overtaken) :
    firstBlame? tree.reading = firstBlame? tree.preorder := by
  induction tree using childInduction with
  | step tree childHypothesis =>
      cases blamed : tree.blame? with
      | some error =>
          have atRoot (below : List Tree) : firstBlame? (tree :: below) = some error := by
            simp [firstBlame?, blamed]
          rw [reading_eq, preorder_eq, atRoot, atRoot]
      | none =>
          have blameless : tree.isFaulty = false := (isFaulty_eq_false_iff tree).2 blamed
          have keeps : ¬ tree.SwapsFaults := by
            intro swaps
            exact ordered (.here blameless swaps)
          rw [firstBlame?_reading_of_blameless blameless,
            firstBlame?_preorder_of_blameless blameless, firstBlame?_readingBelow keeps]
          apply firstBlame?_flatMap_congr
          intro before child behind split faultless
          apply childHypothesis child
          · simp [split]
          · intro overtaken
            exact ordered (.inside blameless split faultless overtaken)

/-- The first fault of trees one after the other is that of the first one that has a
fault. -/
theorem firstBlame?_flatMap_of_faultless
    {order : Tree -> List Tree}
    {before behind : List Tree}
    {child : Tree}
    {error : TreeError}
    (faultless : firstBlame? (before.flatMap order) = none)
    (reported : firstBlame? (order child) = some error) :
    firstBlame? ((before ++ child :: behind).flatMap order) = some error := by
  rw [List.flatMap_append, List.flatMap_cons, firstBlame?_append, firstBlame?_append,
    faultless, reported, Option.none_or, Option.some_or]

/-- A node that swaps faults: the one behind is reported. -/
theorem SwapsFaults.exists_overtaking
    {node : Tree}
    (swaps : node.SwapsFaults)
    (blameless : node.isFaulty = false)
    (distinct : node.ids.Nodup) :
    ∃ first reported,
      firstBlame? node.preorder = some first ∧ firstBlame? node.reading = some reported ∧
        reported.nodeId ≠ first.nodeId := by
  have exists_error (order : Tree -> List Tree) (operands : List Tree)
      (faultless :
        firstBlame? (operands.flatMap order) = none ->
          ∀ operand ∈ operands, operand.firstFault? = none)
      (found : ∃ operand ∈ operands, operand.firstFault?.isSome) :
      ∃ error, firstBlame? (operands.flatMap order) = some error := by
    rw [← Option.isSome_iff_exists, ← Option.ne_none_iff_isSome]
    intro missing
    obtain ⟨operand, present, fault⟩ := found
    simp [faultless missing operand present] at fault
  obtain ⟨late, early, behind⟩ := swaps
  obtain ⟨first, firstFound⟩ := exists_error preorder _
    (firstBlame?_flatMap_preorder_eq_none_iff _).1 early
  obtain ⟨reported, reportedFound⟩ := exists_error reading _
    (firstBlame?_flatMap_reading_eq_none_iff _).1 behind
  have split : node.children.take 2 ++ node.children.drop 2 = node.children :=
    List.take_append_drop 2 node.children
  refine ⟨first, reported, ?_, ?_, ?_⟩
  · rw [firstBlame?_preorder_of_blameless blameless, ← split, List.flatMap_append,
      firstBlame?_append, firstFound, Option.some_or]
  · rw [firstBlame?_reading_of_blameless blameless, firstBlame?_readingBelow_of_late late,
      reportedFound, Option.some_or]
  · have firstPlace := nodeId_mem_idsOfAll (fun tree => List.Perm.refl tree.preorder) firstFound
    have reportedPlace := nodeId_mem_idsOfAll reading_perm_preorder reportedFound
    have apart : (idsOfAll (node.children.take 2 ++ node.children.drop 2)).Nodup := by
      rw [split]
      exact (List.nodup_cons.1 (node.ids_eq ▸ distinct)).2
    rw [idsOfAll_append, List.nodup_append] at apart
    exact (apart.2.2 first.nodeId firstPlace reported.nodeId reportedPlace).symm

/-- In a tree with distinct identifiers, an overtaken fault is not the one that the
decoder reports. -/
theorem Overtaken.exists_overtaking
    {tree : Tree}
    (overtaken : tree.Overtaken)
    (distinct : tree.ids.Nodup) :
    ∃ first reported,
      firstBlame? tree.preorder = some first ∧ firstBlame? tree.reading = some reported ∧
        reported.nodeId ≠ first.nodeId := by
  induction overtaken with
  | here blameless swaps => exact swaps.exists_overtaking blameless distinct
  | @inside node child before behind blameless split faultless overtaken childHypothesis =>
      -- The node may swap faults itself, also if the way goes on to a child.
      by_cases swaps : node.SwapsFaults
      · exact swaps.exists_overtaking blameless distinct
      · have childDistinct : child.ids.Nodup := by
          have belowDistinct := (List.nodup_cons.1 (node.ids_eq ▸ distinct)).2
          rw [split, idsOfAll_append, idsOfAll_cons, List.nodup_append] at belowDistinct
          exact (List.nodup_append.1 belowDistinct.2.1).1
        obtain ⟨first, reported, firstFound, reportedFound, differ⟩ :=
          childHypothesis childDistinct
        refine ⟨first, reported, ?_, ?_, differ⟩
        · rw [firstBlame?_preorder_of_blameless blameless, split]
          apply firstBlame?_flatMap_of_faultless _ firstFound
          exact (firstBlame?_flatMap_preorder_eq_none_iff before).2 faultless
        · rw [firstBlame?_reading_of_blameless blameless, firstBlame?_readingBelow swaps, split]
          apply firstBlame?_flatMap_of_faultless _ reportedFound
          exact (firstBlame?_flatMap_reading_eq_none_iff before).2 faultless

/-! ## Trees without claims below -/

/-- An operand stands in one of the slots of a signature. -/
theorem exists_accepts_of_fits
    {slots : List Slot}
    {operands : List Tree}
    {operand : Tree}
    (fits : (Signature.fixed slots).Fits operands)
    (present : operand ∈ operands) :
    ∃ slot ∈ slots, slot.accepts operand = true := by
  rw [Signature.fits_fixed] at fits
  induction fits with
  | nil => simp at present
  | @cons slot first slots rest accepted restFit restHypothesis =>
      rcases List.mem_cons.1 present with rfl | present
      · exact ⟨slot, List.mem_cons_self, accepted⟩
      · obtain ⟨found, isSlot, accepts⟩ := restHypothesis present
        exact ⟨found, List.mem_cons_of_mem slot isSlot, accepts⟩

/-- A node that is not to blame and is no claim has no claims as operands. -/
theorem type_ne_claim_of_mem_children
    {node child : Tree}
    (blameless : node.isFaulty = false)
    (noClaim : node.type ≠ .claim)
    (present : child ∈ node.children) :
    child.type ≠ .claim := by
  obtain ⟨filled, sound⟩ := (blame?_eq_none_iff node).1
    ((isFaulty_eq_false_iff node).1 blameless)
  have fromSlots {slots : List Slot} (fits : (Signature.fixed slots).Fits node.children)
      (clear : ∀ slot ∈ slots, slot.type ≠ .claim) : child.type ≠ .claim := by
    obtain ⟨slot, isSlot, accepted⟩ := exists_accepts_of_fits fits present
    rw [Slot.type_of_accepts accepted]
    exact clear slot isSlot
  cases typed : node.type with
  | claim => exact absurd typed noClaim
  | observation =>
      obtain ⟨_, tag, _, fits⟩ := (defect?_eq_none_iff_of_observation typed filled).1 sound
      cases tag <;> exact fromSlots fits (by decide)
  | inequality =>
      obtain ⟨_, tag, _, fits⟩ := (defect?_eq_none_iff_of_inequality typed filled).1 sound
      cases tag <;> exact fromSlots fits (by decide)
  | value =>
      obtain ⟨childless, _⟩ := (defect?_eq_none_iff_of_value typed filled).1 sound
      simp [childless] at present

/-- Only in a claim is the first fault overtaken. -/
theorem Overtaken.type_eq_claim
    {tree : Tree}
    (overtaken : tree.Overtaken) :
    tree.type = .claim := by
  induction overtaken with
  | here blameless swaps =>
      have late := swaps.1
      simp only [readsFirstTwoLast, Bool.and_eq_true, beq_iff_eq] at late
      exact late.1
  | @inside node child before behind blameless split faultless overtaken childHypothesis =>
      by_contra noClaim
      have present : child ∈ node.children := by simp [split]
      exact type_ne_claim_of_mem_children blameless noClaim present childHypothesis

/-! ## What is reported -/

/-- In a valid tree, a node is faulty exactly if it is open. -/
theorem firstFault?_of_valid
    {tree : Tree}
    (valid : tree.validate = .ok ()) :
    tree.firstFault? = tree.walk.find? isPlaceholder := by
  unfold firstFault?
  apply List.find?_congr
  intro node present
  rw [walk_eq_preorder] at present
  have passes := (fault?_eq_none_iff node).2 ((validate_eq_ok_iff tree).1 valid node present)
  simp [isFaulty, passes]

/-- A reader that reports the first node to blame in pre-order reports the first
fault. -/
theorem reportsFirstFault_of_errorOf?
    {α : Type}
    {tree : Tree}
    {result : Except TreeError α}
    (reports : errorOf? result = firstBlame? tree.preorder) :
    tree.ReportsFirstFault result := by
  have names_first : ∀ error, result = .error error ->
      ∃ node, tree.firstFault? = some node ∧ error.nodeId = node.id ∧
        error.nodeTag = node.tag ∧ error.isIncomplete = node.isPlaceholder := by
    intro error failed
    rw [(errorOf?_eq_some_iff result error).2 failed, firstBlame?_preorder] at reports
    obtain ⟨node, found, blamed⟩ := Option.bind_eq_some_iff.1 reports.symm
    exact ⟨node, found, names_of_blame? blamed⟩
  refine ⟨names_first, ?_, ?_⟩
  · intro complete error failed
    have sameFault : firstBlame? tree.preorder = tree.preorder.findSome? fault? := by
      rw [firstBlame?, ← List.head?_filterMap, ← List.head?_filterMap]
      congr 1
      apply List.filterMap_congr
      intro node present
      simp [blame?, (isComplete_iff tree).1 complete node present]
    rw [validate, walk_eq_preorder, ← sameFault, ← reports, failed]
    rfl
  · intro valid error failed session atRoot
    obtain ⟨node, found, named, _⟩ := names_first error failed
    rw [firstFault?_of_valid valid] at found
    rw [Session.targetOf, Session.firstSlot?, atRoot, found, Option.map_some, named]

/-- A reader that goes by reading order reports the first fault unless this is
overtaken, and with distinct identifiers only then. -/
theorem reportsFirstFault_iff
    {α : Type}
    {tree : Tree}
    {result : Except TreeError α}
    (reports : errorOf? result = firstBlame? tree.reading)
    (distinct : tree.ids.Nodup) :
    tree.ReportsFirstFault result ↔ ¬ tree.Overtaken := by
  constructor
  · intro reportsFirst overtaken
    obtain ⟨first, reported, firstFound, reportedFound, differ⟩ :=
      overtaken.exists_overtaking distinct
    have failed : result = .error reported := by
      rw [← errorOf?_eq_some_iff, reports, reportedFound]
    obtain ⟨node, found, named, _⟩ := reportsFirst.names_first reported failed
    rw [firstBlame?_preorder, found] at firstFound
    exact differ (named.trans (names_of_blame? firstFound).1.symm)
  · intro ordered
    apply reportsFirstFault_of_errorOf?
    rw [reports, firstBlame?_reading_eq_preorder ordered]

/-- The readers of observations and inequalities report the first fault. The reader of
claims does unless this fault is overtaken, and if it is, never where identifiers are
distinct. -/
theorem decode_reports_first_fault (tree : Tree) :
    (tree.type = .claim ->
      (¬ tree.Overtaken -> tree.ReportsFirstFault tree.decodeClaim) ∧
        (tree.ids.Nodup -> tree.Overtaken -> ¬ tree.ReportsFirstFault tree.decodeClaim)) ∧
    (tree.type = .observation -> tree.ReportsFirstFault tree.decodeObservation) ∧
    (tree.type = .inequality -> tree.ReportsFirstFault tree.decodeInequality) := by
  have inOrder {type : NodeType} (typed : tree.type = type) (noClaim : type ≠ .claim) :
      firstBlame? tree.reading = firstBlame? tree.preorder := by
    apply firstBlame?_reading_eq_preorder
    intro overtaken
    exact noClaim (typed.symm.trans overtaken.type_eq_claim)
  refine ⟨?_, ?_, ?_⟩
  · intro typed
    constructor
    · intro ordered
      apply reportsFirstFault_of_errorOf?
      rw [errorOf?_decodeClaim typed, firstBlame?_reading_eq_preorder ordered]
    · intro distinct overtaken reportsFirst
      exact (reportsFirstFault_iff (errorOf?_decodeClaim typed) distinct).1 reportsFirst overtaken
  · intro typed
    apply reportsFirstFault_of_errorOf?
    rw [errorOf?_decodeObservation typed, inOrder typed (by decide)]
  · intro typed
    apply reportsFirstFault_of_errorOf?
    rw [errorOf?_decodeInequality typed, inOrder typed (by decide)]

/-- Two obligations in a conjunction, the first one open and the second one without
its operand; a conjunction whose first operand is open, as is the one behind the first
two; a sum of an open number and an open observation; a comparison without operands. -/
theorem decode_reports_first_fault_open :
    let conjunction : Tree :=
      .claim "and" .and
        [.claim "first" .give [.placeholder "hole" .claim], .claim "second" .give []]
    let triple : Tree :=
      .claim "and" .and
        [.placeholder "hole" .claim, .claim "zero" .zero [], .placeholder "other" .claim]
    let sum : Tree :=
      .observation "add" .add
        [.observation "const" .const [.placeholder "number" .value],
          .placeholder "hole" .observation]
    let comparison : Tree := .inequality "lte" .lte []
    (conjunction.type = .claim ∧ ¬ conjunction.Overtaken ∧
      conjunction.ReportsFirstFault conjunction.decodeClaim) ∧
    (triple.type = .claim ∧ triple.ids.Nodup ∧ triple.Overtaken ∧
      ¬ triple.ReportsFirstFault triple.decodeClaim) ∧
    (sum.type = .observation ∧ sum.ReportsFirstFault sum.decodeObservation) ∧
    (comparison.type = .inequality ∧
      comparison.ReportsFirstFault comparison.decodeInequality) := by
  intro conjunction triple sum comparison
  have ordered : ¬ conjunction.Overtaken := by
    intro overtaken
    have same : firstBlame? conjunction.reading = firstBlame? conjunction.preorder := by
      decide
    obtain ⟨first, reported, firstFound, reportedFound, differ⟩ :=
      overtaken.exists_overtaking (by rw [ids_eq_map]; decide)
    rw [same, firstFound, Option.some_inj] at reportedFound
    exact differ (congrArg TreeError.nodeId reportedFound.symm)
  have overtaken : triple.Overtaken := by
    apply Overtaken.here
    · decide
    · refine ⟨by decide, ⟨.placeholder "hole" .claim, by simp [triple, claim], ?_⟩,
        ⟨.placeholder "other" .claim, by simp [triple, claim], ?_⟩⟩
      · rw [firstFault?_eq]
        decide
      · rw [firstFault?_eq]
        decide
  have distinct : triple.ids.Nodup := by
    rw [ids_eq_map]
    decide
  exact ⟨⟨rfl, ordered, ((decode_reports_first_fault conjunction).1 rfl).1 ordered⟩,
    ⟨rfl, distinct, overtaken,
      ((decode_reports_first_fault triple).1 rfl).2 distinct overtaken⟩,
    ⟨rfl, (decode_reports_first_fault sum).2.1 rfl⟩,
    ⟨rfl, (decode_reports_first_fault comparison).2.2 rfl⟩⟩

/-- The slot `b` is reported as open where `a` is the first one in pre-order and the
one that a step acts on next; the node `one` is reported as invalid where the check
names `give`. -/
theorem decodeClaim_passes_over_first_fault :
    let slots : Tree :=
      .claim "and" .and
        [.placeholder "a" .claim, .claim "zero" .zero [], .placeholder "b" .claim]
    let defects : Tree :=
      .claim "and" .and
        [.claim "give" .give [], .claim "zero" .zero [], .claim "one" .one []]
    (slots.ids.Nodup ∧ slots.validate = .ok () ∧
      slots.firstFault? = some (.placeholder "a" .claim) ∧
      slots.decodeClaim = .error (.incomplete "b" "Claim") ∧
      (∀ session : Session, session.root = slots -> session.targetOf none = .ok "a") ∧
      ¬ slots.ReportsFirstFault slots.decodeClaim) ∧
    (defects.ids.Nodup ∧ defects.isComplete = true ∧
      defects.validate = .error (.invalid "give" "Give" (.wrongCount 1 0)) ∧
      defects.decodeClaim = .error (.invalid "one" "One" (.wrongCount 1 0)) ∧
      ¬ defects.ReportsFirstFault defects.decodeClaim) := by
  intro slots defects
  have distinct : slots.ids.Nodup ∧ defects.ids.Nodup := by
    rw [ids_eq_map, ids_eq_map]
    decide
  have slotsValid : slots.validate = .ok () := by
    rw [validate, walk_eq_preorder]
    rfl
  have slotsFault : slots.firstFault? = some (.placeholder "a" .claim) := by
    rw [firstFault?_eq]
    rfl
  have slotsRead : slots.decodeClaim = .error (.incomplete "b" "Claim") := rfl
  have nextSlot (session : Session) (atRoot : session.root = slots) :
      session.targetOf none = .ok "a" := by
    rw [Session.targetOf, Session.firstSlot?, atRoot, walk_eq_preorder]
    rfl
  have defectsComplete : defects.isComplete = true := by
    rw [isComplete, walk_eq_preorder]
    decide
  have defectsRefused :
      defects.validate = .error (.invalid "give" "Give" (.wrongCount 1 0)) := by
    rw [validate, walk_eq_preorder]
    rfl
  have defectsRead :
      defects.decodeClaim = .error (.invalid "one" "One" (.wrongCount 1 0)) := rfl
  refine ⟨⟨distinct.1, slotsValid, slotsFault, slotsRead, nextSlot, ?_⟩,
    ⟨distinct.2, defectsComplete, defectsRefused, defectsRead, ?_⟩⟩
  · intro reportsFirst
    obtain ⟨node, found, named, _⟩ := reportsFirst.names_first _ slotsRead
    rw [slotsFault] at found
    obtain rfl := Option.some.inj found
    exact absurd named (by decide)
  · intro reportsFirst
    have refused := reportsFirst.names_refused defectsComplete _ defectsRead
    rw [defectsRefused] at refused
    exact absurd refused (by decide)

end Tree
end ContingentClaims
