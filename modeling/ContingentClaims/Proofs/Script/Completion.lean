import ContingentClaims.Proofs.Script.Choice
import ContingentClaims.Proofs.Session.Substitution
import ContingentClaims.Proofs.Tree.Demand

/-!
# Completing a tree

No editing session comes to a dead end. While a slot is open, a step that names no node closes
the first one: a claim by the claim without payoff, an observation by a constant, an inequality
by a date, and the slot of a leaf by a literal of its kind. A constant and a date open a slot for
their leaf, so it is not the number of open slots that goes down with every step but the demand
of the tree for names. Wherever the menus stand, a script of such steps leads to a tree that is
submitted (`exists_completing_script`).
-/

namespace ContingentClaims

/-- Steps that choose an entry or type a literal at the first open slot. -/
def Step.fillsFirst : Step -> Bool
  | choose none _ => true
  | set none _ _ => true
  | _ => false

/-! ## Entries from every menu state -/

namespace Catalog

/-- Nothing is expanded in a column of terminal entries. -/
theorem columnsFrom_of_flat
    {column : List MenuEntry}
    (flat : ∀ entry ∈ column, entry.isCategory = false)
    (path : List NodeId) :
    columnsFrom column path = [column] := by
  cases path with
  | nil => rfl
  | cons id rest =>
      have nowhere : (column.find? fun entry => entry.id == id && entry.isCategory) = none := by
        rw [List.find?_eq_none]
        intro entry present
        simp [flat entry present]
      rw [columnsFrom, nowhere]

/-- An entry that labels lead to is an entry of the forest. -/
theorem mem_allEntries_of_entryAlong?
    {column : List MenuEntry}
    {labels : List String}
    {entry : MenuEntry}
    (named : entryAlong? column labels = some entry) :
    entry ∈ allEntries column := by
  induction labels generalizing column with
  | nil => cases named
  | cons label rest restHypothesis =>
      cases rest with
      | nil =>
          rw [entryAlong?_one] at named
          exact mem_allEntries_of_mem (List.mem_of_find?_eq_some named)
      | cons next rest =>
          rw [entryAlong?_cons] at named
          obtain ⟨category, labelled, below⟩ := Option.bind_eq_some_iff.1 named
          have isEntry := mem_allEntries_of_mem (List.mem_of_find?_eq_some labelled)
          exact mem_allEntries_of_mem_children isEntry (restHypothesis below)

end Catalog

namespace Session

variable {session : Session} {catalog : Catalog} {categories : List MenuEntry}
variable {id : NodeId} {node target : Tree} {labels : List String} {entry : MenuEntry}

/-- The labels that lead from the last column to an entry select it. -/
theorem choosePath_eq_select
    (shown : session.menu? = some catalog)
    (distinct : catalog.IsDistinct)
    (childless :
      ∀ entry ∈ allEntries catalog.entries, entry.isCategory = false -> entry.children = [])
    (resolved : catalog.resolvePath? session.path = some categories)
    (named :
      Catalog.entryAlong? (Catalog.columnBelow catalog.entries categories) labels = some entry) :
    ∃ label path,
      session.choosePath session.path.length labels =
        requireEffect (.selectionWithoutEffect label)
          (({ session with path } : Session).select entry.id) := by
  induction labels generalizing session categories with
  | nil => cases named
  | cons label rest restHypothesis =>
      cases rest with
      | nil =>
          rw [Catalog.entryAlong?_one] at named
          have last : session.menuColumns.getLast? =
              some (Catalog.columnBelow catalog.entries categories) := by
            rw [menuColumns_eq shown]
            exact Catalog.getLast?_columnsFrom resolved
          refine ⟨label, session.path, ?_⟩
          rw [choosePath, selectLabel, last, Option.bind_some, named]
      | cons next rest =>
          rw [Catalog.entryAlong?_cons] at named
          obtain ⟨category, labelled, below⟩ := Option.bind_eq_some_iff.1 named
          have isEntry := List.mem_of_find?_eq_some labelled
          have present := Catalog.mem_allEntries_of_mem_columnBelow resolved isEntry
          have isCategory : category.isCategory = true := by
            by_contra isTerminal
            rw [Bool.not_eq_true] at isTerminal
            rw [Catalog.entryAlong?_of_childless (childless category present isTerminal)] at below
            cases below
          have further := Catalog.resolvePath?_concat distinct resolved isEntry
          rw [isCategory, if_pos rfl] at further
          rw [← Catalog.columnBelow_concat catalog.entries categories category] at below
          have expandedShown :
              ({ session with path := session.path ++ [category.id] } : Session).menu? =
                some catalog := shown
          obtain ⟨last, path, selected⟩ := restHypothesis expandedShown further below
          refine ⟨last, path, ?_⟩
          rw [choosePath_cons, hoverLabel_eq shown distinct resolved, labelled]
          dsimp only
          rw [isCategory, if_pos rfl]
          rw [List.length_append] at selected
          exact selected

/-- The labels of a terminal entry select it, whatever menu is open and whatever is expanded in
it. -/
theorem performStep_choose_eq_select
    (standard : session.catalogs.IsStandard)
    (unlocked : session.locked = false)
    (found : session.root.find? id = some target)
    (shown : session.catalogs.forType? target.type = some catalog)
    (named : catalog.findByLabels? labels = some entry)
    (isTerminal : entry.isCategory = false) :
    ∃ label path,
      session.performStep (.choose (some id) labels) =
        requireEffect (.selectionWithoutEffect label)
          ((session.withMenu id path).select entry.id) := by
  have menuShown (path : List NodeId) : (session.withMenu id path).menu? = some catalog := by
    have isOpen : (session.withMenu id path).openNode = some id := rfl
    have isThere : (session.withMenu id path).root.find? id = some target := found
    rw [menu?_of_find? isOpen isThere]
    exact shown
  rw [performStep_choose, openMenuOf_eq_ok unlocked found shown]
  generalize (if session.openNode = some id then session.path else []) = expanded
  change ∃ label path, (session.withMenu id expanded).choosePath 0 labels = _
  rw [Catalog.findByLabels?_eq] at named
  by_cases one : labels.length = 1
  · obtain ⟨label, rfl⟩ := List.length_eq_one_iff.1 one
    rw [Catalog.entryAlong?_one] at named
    have present : entry ∈ catalog.entries := List.mem_of_find?_eq_some named
    have flat : ∀ other ∈ catalog.entries, other.isCategory = false := by
      rcases standard.flat_or_nested shown with nested | flat
      · rw [nested entry present] at isTerminal
        cases isTerminal
      · exact flat
    have last : (session.withMenu id expanded).menuColumns.getLast? = some catalog.entries := by
      rw [menuColumns_eq (menuShown expanded), Catalog.columnsFrom_of_flat flat]
      rfl
    refine ⟨label, expanded, ?_⟩
    rw [choosePath, selectLabel, last, Option.bind_some, named]
  · rw [choosePath_withMenu one]
    exact choosePath_eq_select (menuShown []) (standard.distinct _ _ shown)
      (fun _ => standard.children_eq_nil shown) rfl named

/-! ## The first open slot -/

theorem performStep_choose_first
    (first : session.firstSlot? = some id)
    (labels : List String) :
    session.performStep (.choose none labels) =
      session.performStep (.choose (some id) labels) := by
  simp [performStep, openMenuOf, targetOf, first]

/-- There is a first open slot unless the tree is complete. -/
theorem exists_firstSlot
    (incomplete : session.root.isComplete = false) :
    ∃ node ∈ session.root.preorder,
      node.isPlaceholder = true ∧ session.firstSlot? = some node.id := by
  cases found : session.root.walk.find? Tree.isPlaceholder with
  | none =>
      have complete : session.root.isComplete = true := by
        rw [Tree.isComplete, List.all_eq_true]
        intro node present
        simpa using List.find?_eq_none.1 found node present
      rw [complete] at incomplete
      cases incomplete
  | some node =>
      refine ⟨node, ?_, List.find?_some found, by simp [firstSlot?, found]⟩
      rw [← Tree.walk_eq_preorder]
      exact List.mem_of_find?_eq_some found

end Session

/-! ## What closes a slot -/

/-- For every type but that of leaves the menu has an entry whose template takes as many names
with its own slots as there is demand for the type. -/
theorem Catalogs.IsStandard.exists_closing
    {catalogs : Catalogs}
    {type : NodeType}
    {catalog : Catalog}
    (standard : catalogs.IsStandard)
    (shown : catalogs.forType? type = some catalog) :
    ∃ labels entry template,
      catalog.findByLabels? labels = some entry ∧ entry.template = some template ∧
        ∀ source,
          (template.run source).1.demand + (template.run source).1.preorder.length =
            type.demand := by
  obtain ⟨labels, template, listed, cost⟩ :
      ∃ labels template,
        (catalog.findByLabels? labels).bind (·.template) = some template ∧
          ∀ source,
            ((template.run source).1.preorder.map Tree.ownDemand).sum +
              (template.run source).1.preorder.length = type.demand := by
    cases type with
    | claim =>
        obtain ⟨source, written⟩ := standard.claims
        obtain rfl := Option.some.inj shown
        rw [written]
        exact ⟨["Primitives", "Zero"], .zero, rfl, fun _ => rfl⟩
    | observation =>
        obtain ⟨source, written⟩ := standard.observations
        obtain rfl := Option.some.inj shown
        rw [written]
        exact ⟨["Const"], .const, rfl, fun _ => rfl⟩
    | inequality =>
        obtain ⟨source, written⟩ := standard.inequalities
        obtain rfl := Option.some.inj shown
        rw [written]
        exact ⟨["TimeGte"], .timeGte, rfl, fun _ => rfl⟩
    | value => cases shown
  obtain ⟨entry, named, offered⟩ := Option.bind_eq_some_iff.1 listed
  refine ⟨labels, entry, template, named, offered, ?_⟩
  intro source
  rw [Tree.demand_eq_sum]
  exact cost source

/-- A value node of a claim stands in a slot that asks for a kind of leaf. -/
theorem Context.exists_leafSlot
    {context : Context}
    {node : Tree}
    (valid : (context.plug node).Grammatical)
    (isClaim : (context.plug node).type = .claim)
    (isLeaf : node.type = .value) :
    ∃ kind, context.slot? = some (.leaf kind) := by
  cases context with
  | nil =>
      rw [plug_nil, isLeaf] at isClaim
      cases isClaim
  | cons frame outer =>
      obtain ⟨slot, found, accepted⟩ := exists_slot?_of_grammatical valid
      have typed := Slot.type_of_accepts accepted
      rw [isLeaf] at typed
      cases slot with
      | leaf kind => exact ⟨kind, found⟩
      | _ => cases typed

/-- There are leaves of every kind that can be typed. -/
theorem Leaf.exists_isTyped (kind : LeafKind) :
    ∃ leaf : Leaf, leaf.kind = kind ∧ leaf.IsTyped := by
  have trimmed : Text.IsTrimmed "X" := ⟨by decide, by decide⟩
  cases kind with
  | asset => exact ⟨.asset { id := "X" }, rfl, rfl, trimmed⟩
  | decimal => exact ⟨.decimal ⟨false, 0, 0, by decide, by decide⟩, rfl, trivial⟩
  | date => exact ⟨.date ⟨2000, 1, 1, by decide, by decide, by decide⟩, rfl, trivial⟩
  | key => exact ⟨.key "X", rfl, trimmed⟩

/-- Every kind of leaf has a literal. -/
theorem Leaf.exists_literal (kind : LeafKind) :
    ∃ literal leaf, ofLiteral kind literal = .ok leaf ∧ leaf.kind = kind := by
  obtain ⟨leaf, rfl, typed⟩ := exists_isTyped kind
  exact ⟨leaf.text, leaf.unsignZeros, ofLiteral_text typed, leaf.kind_unsignZeros⟩

/-- The node of a leaf is no open slot. -/
theorem Leaf.demand_encode
    (leaf : Leaf)
    (source : IdSource) :
    (leaf.encode.run source).1.demand = 0 := by
  have filled : (leaf.encode.run source).1.isPlaceholder = false :=
    Tree.isPlaceholder_ofLeaf source.peek leaf
  rw [Tree.demand_eq, Tree.ownDemand, filled]
  rfl

/-! ## Closing a slot -/

namespace Session

variable {session : Session} {context : Context} {node subtree root : Tree} {amount : Nat}

/-- A session in which every open slot can be closed: unlocked, with the standard menus, on a
sound tree, and with as many new names as there is demand for. -/
structure IsClosable (session : Session) : Prop where
  unlocked : session.locked = false
  standard : session.catalogs.IsStandard
  sound : session.root.IsSound session.root.id
  fresh : session.ids.IsFreshFor session.root.demand session.root

/-- The slots of a later session can be closed as well, and there is less demand: it has gone
down by the names that were drawn. -/
structure Advances (session later : Session) : Prop where
  closable : later.IsClosable
  less : later.root.demand < session.root.demand
  draws :
    ∃ amount, later.ids = session.ids.skip amount ∧
      amount + later.root.demand ≤ session.root.demand

/-- A subtree that makes up for the demand of an open slot finds names enough for its nodes. -/
theorem IsClosable.freshFor
    (closable : session.IsClosable)
    (whole : session.root = context.plug node)
    (isOpen : node.isPlaceholder = true)
    (cost : subtree.demand + amount ≤ node.type.demand) :
    session.ids.IsFreshFor amount session.root := by
  apply closable.fresh.mono
  have enough := context.demand_plug_takeOver_le isOpen cost false
  rw [whole]
  omega

/-- The session advances when a subtree that makes up for the demand of an open slot takes the
slot over with the next names. -/
theorem IsClosable.advances_grown
    (closable : session.IsClosable)
    (whole : session.root = context.plug node)
    (isOpen : node.isPlaceholder = true)
    (cost : subtree.demand + amount ≤ node.type.demand)
    (numbered : subtree.ids = session.ids.upcoming amount)
    {keepText : Bool}
    (changed : root = context.plug (subtree.takeOver keepText node))
    (sound : root.IsSound session.root.id) :
    session.Advances (session.grown amount root) := by
  have enough := context.demand_plug_takeOver_le isOpen cost keepText
  rw [← changed, ← whole] at enough
  have positive : 0 < amount := by
    rw [Nat.pos_iff_ne_zero]
    rintro rfl
    rw [Tree.ids_eq] at numbered
    cases numbered
  refine ⟨⟨closable.unlocked, closable.standard, ?_, ?_⟩, ?_, ⟨amount, rfl, enough⟩⟩
  · change root.IsSound root.id
    rw [sound.named]
    exact sound
  · apply (closable.fresh.mono enough).skip
    intro id present
    change id ∈ root.ids at present
    rw [changed] at present
    rw [whole, ← numbered]
    exact (Context.mem_ids_of_plug_takeOver present).imp_left Tree.mem_ids_of_mem_idsBelow
  · change root.demand < session.root.demand
    omega

/-- The first open slot is closed by a choice unless it is that of a leaf. -/
theorem IsClosable.choose
    (closable : session.IsClosable)
    (found : session.root.find? node.id = some node)
    (isOpen : node.isPlaceholder = true)
    (first : session.firstSlot? = some node.id)
    (operator : node.type ≠ .value) :
    ∃ labels later,
      session.performStep (.choose none labels) = .ok later ∧ session.Advances later := by
  obtain ⟨catalog, shown⟩ := (session.catalogs.exists_forType?_iff node.type).2 operator
  obtain ⟨labels, entry, template, named, offered, cost⟩ := closable.standard.exists_closing shown
  have isTerminal : entry.isCategory = false := by
    rw [MenuEntry.isCategory, offered]
    rfl
  obtain ⟨label, path, chosen⟩ := performStep_choose_eq_select closable.standard closable.unlocked
    found shown named isTerminal
  rw [Catalog.findByLabels?_eq] at named
  have listed := Catalog.find?_of_mem (closable.standard.distinct _ _ shown)
    (Catalog.mem_allEntries_of_entryAlong? named)
  have skeleton := closable.standard.isSkeleton shown listed offered
  have offers : (session.withMenu node.id path).Offers entry.id node template :=
    ⟨catalog, entry, rfl, found, shown, listed, offered⟩
  obtain ⟨place, split, _, _⟩ := Tree.exists_context_of_find? found
  have fresh := closable.freshFor split isOpen (cost session.ids).le
  obtain ⟨context, whole, selected⟩ :=
    offers.select_eq closable.standard closable.sound.grammatical closable.sound.distinct fresh
  have before : (session.withMenu node.id path).root.IsSound session.root.id := closable.sound
  have sound := isSound_perform before (.select entry.id)
  rw [perform, selected] at sound
  have numbered := skeleton.ids_eq session.ids
  rw [IdSource.names_eq_upcoming] at numbered
  have advances := closable.advances_grown whole isOpen (cost session.ids).le numbered rfl sound
  refine ⟨labels, _, ?_, advances⟩
  have drawn := skeleton.drawn session.ids
  rw [IdSource.after_eq_skip] at drawn
  rw [performStep_choose_first first, chosen, selected, requireEffect, grown, ← drawn]
  rfl

/-- The first open slot is closed by a literal if it is that of a leaf. -/
theorem IsClosable.set
    (closable : session.IsClosable)
    (whole : session.root = context.plug node)
    (isOpen : node.isPlaceholder = true)
    (first : session.firstSlot? = some node.id)
    (isLeaf : node.type = .value) :
    ∃ kind literal later,
      session.performStep (.set none kind literal) = .ok later ∧ session.Advances later := by
  have distinct : (context.plug node).ids.Nodup := whole ▸ closable.sound.distinct
  have valid : (context.plug node).Grammatical := whole ▸ closable.sound.grammatical
  have isClaim : (context.plug node).type = .claim := whole ▸ closable.sound.typed
  obtain ⟨kind, asked⟩ := Context.exists_leafSlot valid isClaim isLeaf
  obtain ⟨literal, leaf, read, rfl⟩ := Leaf.exists_literal kind
  have encoded := leaf.leaf_encode session.ids
  have suitable : context.suits node (leaf.encode.run session.ids).1 = true := by
    rw [Context.suits, asked]
    exact Tree.accepts_of_leaf encoded
  have numbered := leaf.ids_encode session.ids
  rw [IdSource.names_eq_upcoming] at numbered
  have cost : (leaf.encode.run session.ids).1.demand + 1 ≤ node.type.demand := by
    rw [leaf.demand_encode, isLeaf]
    exact Nat.le_refl 1
  have spliced := Context.splice?_of_isFreshFor distinct (Tree.grammatical_of_leaf encoded)
    suitable numbered (whole ▸ closable.freshFor whole isOpen cost)
  rw [← whole] at spliced
  have found := Context.find?_of_distinct whole closable.sound.distinct
  have accepted : session.inputError? node leaf.kind = none := by
    simp [inputError?, isLeaf, whole, Context.slotOf?_plug distinct, asked]
  have advances := closable.advances_grown whole isOpen cost numbered rfl
    (closable.sound.splice spliced)
  refine ⟨leaf.kind, literal, _, ?_, advances⟩
  have typed := setLeaf_of_splice? found accepted read spliced
  simp only [performStep, targetOf, first, typed, bind, Except.bind, requireEffect]
  rfl

/-- As long as a slot is open, a step that names no node closes the first one. -/
theorem IsClosable.exists_step
    (closable : session.IsClosable)
    (incomplete : session.root.isComplete = false) :
    ∃ step later,
      step.fillsFirst = true ∧ session.performStep step = .ok later ∧ session.Advances later := by
  obtain ⟨node, present, isOpen, first⟩ := exists_firstSlot incomplete
  obtain ⟨context, whole⟩ := Tree.exists_context_of_mem_preorder present
  by_cases isLeaf : node.type = .value
  · obtain ⟨kind, literal, later, performed, advances⟩ :=
      closable.set whole isOpen first isLeaf
    exact ⟨.set none kind literal, later, rfl, performed, advances⟩
  · have found := Context.find?_of_distinct whole closable.sound.distinct
    obtain ⟨labels, later, performed, advances⟩ := closable.choose found isOpen first isLeaf
    exact ⟨.choose none labels, later, rfl, performed, advances⟩

/-- Steps that name no node close one slot after the other. The induction is on the demand, which
every step lowers. -/
theorem IsClosable.exists_script
    (closable : session.IsClosable)
    (number : Nat) :
    ∃ steps later,
      (∀ step ∈ steps, step.fillsFirst = true) ∧
        session.runScript number steps = .ok later ∧
        IdSource.DrawsAtMost session.root.demand session.ids later.ids ∧
        later.IsClosable ∧ later.root.isComplete = true := by
  induction demanded : session.root.demand using Nat.strong_induction_on
      generalizing session number with
  | _ demand demandHypothesis =>
      subst demanded
      cases complete : session.root.isComplete with
      | true =>
          exact ⟨[], session, List.forall_mem_nil _, rfl,
            (IdSource.DrawsAtMost.refl session.ids).mono (Nat.zero_le _), closable, complete⟩
      | false =>
          obtain ⟨step, middle, fills, performed, advances⟩ := closable.exists_step complete
          obtain ⟨steps, later, restFills, run, restDraws, laterClosable, laterComplete⟩ :=
            demandHypothesis _ advances.less advances.closable (number + 1) rfl
          obtain ⟨amount, behind, enough⟩ := advances.draws
          have first : IdSource.DrawsAtMost amount session.ids middle.ids :=
            ⟨amount, Nat.le_refl amount, behind⟩
          refine ⟨step :: steps, later, List.forall_mem_cons.2 ⟨fills, restFills⟩, ?_,
            (first.trans restDraws).mono enough, laterClosable, laterComplete⟩
          rw [runScript, performed]
          exact run

/-- An unlocked session on a valid claim tree can always be brought to the end, whatever menu is
open and whatever is expanded in it: some script that fills the first open slot with each of its
steps runs through, and the tree that it leaves is submitted. The source need not be new to the
tree for ever, but only for as many names as there is demand for; no more are drawn. -/
theorem exists_completing_script
    {menuIds : IdSource}
    (built : (Catalogs.standard.run menuIds).1 = .ok session.catalogs)
    (unlocked : session.locked = false)
    (valid : session.root.validate = .ok ())
    (typed : session.root.type = .claim)
    (distinct : session.root.ids.Nodup)
    (fresh : session.ids.IsFreshFor session.root.demand session.root) :
    ∃ steps, (∀ step ∈ steps, step.fillsFirst = true) ∧
      ∃ later claim,
        session.runScript 1 steps = .ok later ∧ later.submit = .ok claim ∧
          IdSource.DrawsAtMost session.root.demand session.ids later.ids := by
  have closable : session.IsClosable :=
    ⟨unlocked, Catalogs.isStandard_of_standard built,
      ⟨(Tree.validate_eq_ok_iff _).1 valid, rfl, typed, distinct⟩, fresh⟩
  obtain ⟨steps, later, fills, run, draws, laterClosable, complete⟩ := closable.exists_script 1
  obtain ⟨claim, submitted⟩ := (keepsClaim_of_isSound laterClosable.sound).submits_iff.2 complete
  exact ⟨steps, fills, later, claim, run, submitted, draws⟩

/-- A claim tree with an open slot of every type. -/
def draft : Tree :=
  .claim "n0" .cond [
    .placeholder "n1" .inequality,
    .placeholder "n2" .claim,
    .claim "n3" .scale [
      .placeholder "n4" .observation,
      .claim "n5" .one [.placeholder "n6" .value]]]

/-- The session on this tree in which the menu of the open claim is expanded. -/
def expandedDraft : Session :=
  (counting { stem := "n", next := 7 } draft Catalogs.numbered).performAll
    [.openMenu "n2", .hover 0 "m27"]

theorem expandedDraft_isSupplied : expandedDraft.IsSupplied "n" 8 := by
  have valid : ∀ node ∈ draft.preorder, node.defect? = none := by decide
  have distinct : draft.ids.Nodup := by
    rw [Tree.ids_eq_map]
    decide
  have resumed : ({ stem := "n" } : SequentialIds).resumeAfter? draft.ids =
      some { stem := "n", next := 7 } := by
    rw [Tree.ids_eq_map]
    decide +kernel
  apply (isSupplied_counting Catalogs.isStandard_numbered valid distinct resumed
    (by decide)).performAll
  simp [Operation.Avoids]

/-- With an open slot of every type, and with categories expanded in the menu of one of them. -/
theorem exists_completing_script_expanded :
    expandedDraft.openNode = some "n2" ∧ expandedDraft.path = ["m27"] ∧
      (Catalogs.standard.run (.numbered "m")).1 = .ok expandedDraft.catalogs ∧
      expandedDraft.locked = false ∧ expandedDraft.root.validate = .ok () ∧
      expandedDraft.root.type = .claim ∧ expandedDraft.root.ids.Nodup ∧
      expandedDraft.ids.IsFreshFor expandedDraft.root.demand expandedDraft.root ∧
      ∃ steps, (∀ step ∈ steps, step.fillsFirst = true) ∧
        ∃ later claim,
          expandedDraft.runScript 1 steps = .ok later ∧ later.submit = .ok claim ∧
            IdSource.DrawsAtMost expandedDraft.root.demand expandedDraft.ids later.ids := by
  have supplied := expandedDraft_isSupplied
  have sameRoot : expandedDraft.root = draft := by with_unfolding_all rfl
  have sameCatalogs : expandedDraft.catalogs = Catalogs.numbered :=
    (catalogs_perform _ _).trans (catalogs_perform _ _)
  have built : (Catalogs.standard.run (.numbered "m")).1 = .ok expandedDraft.catalogs := by
    rw [sameCatalogs]
    exact Catalogs.standard_numbered
  have unlocked : expandedDraft.locked = false := by decide +kernel
  have valid : expandedDraft.root.validate = .ok () :=
    (Tree.validate_eq_ok_iff _).2 supplied.valid
  have typed : expandedDraft.root.type = .claim := by rw [sameRoot]; rfl
  have fresh : expandedDraft.ids.IsFreshFor expandedDraft.root.demand expandedDraft.root := by
    have demanded : draft.demand = 8 := by rw [Tree.demand_eq_sum]; decide
    have undrawn : expandedDraft.ids.drawn = 0 := by decide +kernel
    apply supplied.isFreshFor
    rw [sameRoot, demanded, undrawn]
  exact ⟨by decide +kernel, by decide +kernel, built, unlocked, valid, typed, supplied.distinct, fresh,
    exists_completing_script built unlocked valid typed supplied.distinct fresh⟩

end Session
end ContingentClaims
