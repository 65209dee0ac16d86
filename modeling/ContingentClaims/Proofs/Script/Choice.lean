import ContingentClaims.Proofs.Menu.Navigation
import ContingentClaims.Proofs.Session.Draws
import ContingentClaims.Proofs.Session.Supply
import ContingentClaims.Script.Run

/-!
# Choosing along a path

A script chooses an entry by the labels that lead to it. The step opens the menu of a
node, expands the categories of the path column by column and selects the last label in
the last column. If the menu of the node is open already it stays as it is, with whatever
categories have been expanded in it. A path with a category replaces them, but a path of
one label is looked up behind them.
-/

namespace ContingentClaims

namespace Session

variable {session : Session} {catalog : Catalog} {categories : List MenuEntry}
variable {id : NodeId} {target : Tree}

/-- A session in which every choice from a menu takes effect: coherent, with the standard
menus, on a valid tree with distinct identifiers, and with names that are new to it for
any template. -/
structure IsPrepared (session : Session) : Prop where
  coherent : session.IsCoherent
  standard : session.catalogs.IsStandard
  valid : session.root.Grammatical
  distinct : session.root.ids.Nodup
  fresh : session.ids.IsFreshFor Catalog.largest session.root

theorem IsPrepared.closeMenu (prepared : session.IsPrepared) : session.closeMenu.IsPrepared :=
  ⟨session.isCoherent_closeMenu, prepared.standard, prepared.valid, prepared.distinct,
    prepared.fresh⟩

/-- The menu of a node with the categories of a path expanded. -/
def withMenu
    (session : Session)
    (id : NodeId)
    (path : List NodeId) : Session :=
  { session with openNode := some id, path }

/-- The terminal entries take effect, and no others do. -/
theorem IsPrepared.took_select_iff
    (prepared : session.IsPrepared)
    (found : session.root.find? id = some target)
    (shown : session.catalogs.forType? target.type = some catalog)
    (path : List NodeId)
    {entry : MenuEntry}
    (present : entry ∈ allEntries catalog.entries) :
    ((session.withMenu id path).select entry.id).2 = true ↔ entry.isCategory = false := by
  have chosen : catalog.find? entry.id = some entry :=
    Catalog.find?_of_mem (prepared.standard.distinct _ _ shown) present
  obtain ⟨_, _, named, _⟩ := Tree.exists_context_of_find? found
  subst named
  constructor
  · intro took
    by_contra isCategory
    rw [Bool.not_eq_false, MenuEntry.isCategory, Option.isNone_iff_eq_none] at isCategory
    rw [select_eq_of_not_offers] at took
    · cases took
    · rintro ⟨node, template, other, choice, opened, there, typed, found', offered⟩
      have sameId : target.id = node.id := Option.some.inj opened
      have sameNode : some target = some node := found.symm.trans (sameId ▸ there)
      obtain rfl := Option.some.inj sameNode
      obtain rfl := Option.some.inj (shown.symm.trans typed)
      obtain rfl := Option.some.inj (chosen.symm.trans found')
      rw [isCategory] at offered
      cases offered
  · intro isTerminal
    rw [MenuEntry.isCategory, Option.isNone_eq_false_iff, Option.isSome_iff_exists] at isTerminal
    obtain ⟨template, offered⟩ := isTerminal
    have offers : (session.withMenu target.id path).Offers entry.id target template :=
      ⟨catalog, entry, rfl, found, shown, chosen, offered⟩
    have size := List.all_eq_true.1 (Catalog.length_written target.type session.ids) template
      (prepared.standard.mem_written shown chosen offered)
    have fresh := prepared.fresh.mono (of_decide_eq_true size)
    obtain ⟨_, _, selected⟩ :=
      offers.select_eq prepared.standard prepared.valid prepared.distinct fresh
    rw [selected]

/-! ## Walking through the columns -/

/-- A session that shows the menu of a catalog, wherever it is expanded. -/
structure IsShowing
    (catalog : Catalog)
    (session : Session) : Prop where
  shown : session.menu? = some catalog
  distinct : catalog.IsDistinct
  /-- Nothing is below a terminal entry. -/
  childless :
    ∀ entry ∈ allEntries catalog.entries, entry.isCategory = false -> entry.children = []
  /-- The terminal entries take effect, and no others do. -/
  takes :
    ∀ path, ∀ entry ∈ allEntries catalog.entries,
      (({ session with path } : Session).select entry.id).2 = true ↔ entry.isCategory = false

theorem IsShowing.withPath
    (showing : session.IsShowing catalog)
    (path : List NodeId) :
    IsShowing catalog { session with path } :=
  ⟨showing.shown, showing.distinct, showing.childless, showing.takes⟩

theorem IsPrepared.isShowing
    (prepared : session.IsPrepared)
    (found : session.root.find? id = some target)
    (shown : session.catalogs.forType? target.type = some catalog)
    (path : List NodeId) :
    (session.withMenu id path).IsShowing catalog := by
  refine ⟨?_, prepared.standard.distinct _ _ shown, ?_, ?_⟩
  · have isOpen : (session.withMenu id path).openNode = some id := rfl
    have isThere : (session.withMenu id path).root.find? id = some target := found
    rw [menu?_of_find? isOpen isThere]
    exact shown
  · intro entry present isTerminal
    exact prepared.standard.children_eq_nil shown present isTerminal
  · intro other entry present
    exact prepared.took_select_iff found shown other present

theorem requireEffect_eq_ok_iff
    (error : StepError)
    (result : Session × Bool)
    (later : Session) :
    requireEffect error result = .ok later ↔ result = (later, true) := by
  rcases result with ⟨session, took⟩
  cases took <;> simp [requireEffect]

theorem requireEffect_ok_iff
    (error : StepError)
    (result : Session × Bool) :
    (∃ later, requireEffect error result = .ok later) ↔ result.2 = true := by
  simp [requireEffect_eq_ok_iff, Prod.ext_iff]

/-- A label is selected if the last column has a terminal entry with it. -/
theorem IsShowing.selectLabel_ok_iff
    (showing : session.IsShowing catalog)
    (resolved : catalog.resolvePath? session.path = some categories)
    (label : String) :
    (∃ later, session.selectLabel label = .ok later) ↔
      ∃ entry, entryLabelled? (Catalog.columnBelow catalog.entries categories) label =
        some entry ∧ entry.isCategory = false := by
  have last : session.menuColumns.getLast? =
      some (Catalog.columnBelow catalog.entries categories) := by
    rw [menuColumns_eq showing.shown]
    exact Catalog.getLast?_columnsFrom resolved
  rw [selectLabel, last, Option.bind_some]
  cases labelled : entryLabelled? (Catalog.columnBelow catalog.entries categories) label with
  | none => simp
  | some entry =>
      have present := Catalog.mem_allEntries_of_mem_columnBelow resolved
        (List.mem_of_find?_eq_some labelled)
      have takes := showing.takes session.path entry present
      simp only [requireEffect_ok_iff, Option.some.injEq, exists_eq_left']
      exact takes

/-- In the last column, a category is expanded by its label. -/
theorem hoverLabel_eq
    (shown : session.menu? = some catalog)
    (distinct : catalog.IsDistinct)
    (resolved : catalog.resolvePath? session.path = some categories)
    (label : String) :
    session.hoverLabel session.path.length label =
      match entryLabelled? (Catalog.columnBelow catalog.entries categories) label with
      | none => .error (.noEntryInColumn label session.path.length)
      | some entry =>
          if entry.isCategory then .ok { session with path := session.path ++ [entry.id] }
          else .error (.notACategory label) := by
  have column : session.menuColumns[session.path.length]? =
      some (Catalog.columnBelow catalog.entries categories) := by
    rw [menuColumns_eq shown]
    exact Catalog.getElem?_columnsFrom resolved
  rw [hoverLabel, column, Option.bind_some]
  cases labelled : entryLabelled? (Catalog.columnBelow catalog.entries categories) label with
  | none => rfl
  | some entry =>
      have isEntry := List.mem_of_find?_eq_some labelled
      have further := Catalog.resolvePath?_concat distinct resolved isEntry
      dsimp only
      rw [hover, List.take_length, expand, shown]
      dsimp only
      rw [further]
      cases entry.isCategory <;> rfl

theorem choosePath_cons
    (session : Session)
    (depth : Nat)
    (label next : String)
    (rest : List String) :
    session.choosePath depth (label :: next :: rest) =
      session.hoverLabel depth label >>= fun later =>
        later.choosePath (depth + 1) (next :: rest) := rfl

/-- Labels are chosen from the last column down if they lead to a terminal entry. -/
theorem IsShowing.choosePath_ok_iff
    (showing : session.IsShowing catalog)
    (resolved : catalog.resolvePath? session.path = some categories)
    (labels : List String) :
    (∃ later, session.choosePath session.path.length labels = .ok later) ↔
      ∃ entry, Catalog.entryAlong? (Catalog.columnBelow catalog.entries categories) labels =
        some entry ∧ entry.isCategory = false := by
  induction labels generalizing session categories with
  | nil => simp [choosePath]
  | cons label rest restHypothesis =>
      cases rest with
      | nil =>
          rw [Catalog.entryAlong?_one]
          exact showing.selectLabel_ok_iff resolved label
      | cons next rest =>
          rw [choosePath_cons, hoverLabel_eq showing.shown showing.distinct resolved,
            Catalog.entryAlong?_cons]
          cases labelled :
              entryLabelled? (Catalog.columnBelow catalog.entries categories) label with
          | none => simp [bind, Except.bind]
          | some entry =>
              have isEntry := List.mem_of_find?_eq_some labelled
              have present := Catalog.mem_allEntries_of_mem_columnBelow resolved isEntry
              dsimp only
              rw [Option.bind_some]
              cases isCategory : entry.isCategory with
              | false =>
                  rw [Catalog.entryAlong?_of_childless (showing.childless entry present isCategory)]
                  simp [bind, Except.bind]
              | true =>
                  have further := Catalog.resolvePath?_concat showing.distinct resolved isEntry
                  rw [isCategory, if_pos rfl] at further
                  have behind := restHypothesis (showing.withPath (session.path ++ [entry.id]))
                    further
                  rw [Catalog.columnBelow_concat, List.length_append] at behind
                  exact behind

/-! ## Categories expanded before -/

/-- A label is looked up in the first column whatever is expanded behind it. -/
theorem hoverLabel_zero_withMenu
    (session : Session)
    (id : NodeId)
    (path : List NodeId)
    (label : String) :
    (session.withMenu id path).hoverLabel 0 label =
      (session.withMenu id []).hoverLabel 0 label := by
  have sameMenu : (session.withMenu id path).menu? = (session.withMenu id []).menu? := rfl
  cases shown : (session.withMenu id []).menu? with
  | none => simp [hoverLabel, menuColumns, sameMenu, shown]
  | some catalog =>
      have column (path : List NodeId) :
          (session.withMenu id path).menuColumns[0]? = some catalog.entries := by
        have shownThere : (session.withMenu id path).menu? = some catalog := shown
        rw [menuColumns, shownThere]
        exact Catalog.getElem?_columnsFrom_zero catalog.entries path
      rw [hoverLabel, hoverLabel, column, column, Option.bind_some]
      cases entryLabelled? catalog.entries label with
      | none => rfl
      | some entry =>
          dsimp only
          rw [hover, hover, expand, expand, sameMenu, shown]
          dsimp only [withMenu]
          rw [List.take_zero, List.take_zero]
          cases catalog.resolvePath? ([] ++ [entry.id]) <;> rfl

/-- Unless a path has one label, it is chosen whatever was expanded before. -/
theorem choosePath_withMenu
    {labels : List String}
    (notOne : labels.length ≠ 1)
    (session : Session)
    (id : NodeId)
    (path : List NodeId) :
    (session.withMenu id path).choosePath 0 labels =
      (session.withMenu id []).choosePath 0 labels := by
  match labels with
  | [] => rfl
  | [label] => exact absurd rfl notOne
  | label :: next :: rest =>
      rw [choosePath_cons, choosePath_cons, hoverLabel_zero_withMenu]

/-! ## Opening the menu of a node -/

/-- The menu of a node with a catalog opens, or stays open as it is. -/
theorem openMenuOf_eq_ok
    (unlocked : session.locked = false)
    (found : session.root.find? id = some target)
    (shown : session.catalogs.forType? target.type = some catalog) :
    session.openMenuOf (some id) =
      .ok (session.withMenu id (if session.openNode = some id then session.path else [])) := by
  have operator : target.type ≠ .value := (session.catalogs.exists_forType?_iff _).1 ⟨_, shown⟩
  by_cases opened : session.openNode = some id
  · have same : session.withMenu id session.path = session := by
      rw [withMenu, ← opened]
    simp [openMenuOf, targetOf, openMenu, opened, same, bind, Except.bind, pure, Except.pure]
  · simp [openMenuOf, targetOf, openMenu, opened, unlocked, found, operator, withMenu, bind,
      Except.bind, pure, Except.pure]

/-- Otherwise no menu opens. -/
theorem IsCoherent.openMenuOf_eq_error
    (coherent : session.IsCoherent)
    (refused : ¬ (session.locked = false ∧
      ∃ target catalog, session.root.find? id = some target ∧
        session.catalogs.forType? target.type = some catalog)) :
    session.openMenuOf (some id) = .error (.noMenu id) := by
  have closed : session.openNode ≠ some id := by
    intro opened
    obtain ⟨node, catalog, found, shown, _⟩ := coherent.menu_of_open id opened
    exact refused ⟨coherent.unlocked_of_open opened, node, catalog, found, shown⟩
  have nothing : session.openMenu id = session := by
    rcases session.openMenu_cases id with same | ⟨node, unlocked, found, operator, _⟩
    · exact same
    · obtain ⟨catalog, shown⟩ := (session.catalogs.exists_forType?_iff node.type).2 operator
      exact absurd ⟨unlocked, node, catalog, found, shown⟩ refused
  simp [openMenuOf, targetOf, nothing, closed, bind, Except.bind, throw, throwThe,
    MonadExceptOf.throw]

/-! ## The step -/

/-- A node is in the tree and has a menu. -/
def HasMenu
    (session : Session)
    (id : NodeId) : Prop :=
  ∃ target catalog, session.root.find? id = some target ∧
    session.catalogs.forType? target.type = some catalog

/-- The step does not go on from categories that were expanded before: its path has a
category of its own, or nothing is expanded in the menu of the node. -/
def StartsAfresh
    (session : Session)
    (id : NodeId)
    (labels : List String) : Prop :=
  labels.length ≠ 1 ∨ session.openNode ≠ some id ∨ session.path = []

variable {labels : List String}

theorem performStep_choose
    (session : Session)
    (id : NodeId)
    (labels : List String) :
    session.performStep (.choose (some id) labels) =
      session.openMenuOf (some id) >>= fun later => later.choosePath 0 labels := rfl

/-- A step that starts afresh walks through the menu of the node from its first column. -/
theorem performStep_choose_afresh
    (afresh : session.StartsAfresh id labels)
    (unlocked : session.locked = false)
    (hasMenu : session.HasMenu id) :
    session.performStep (.choose (some id) labels) =
      (session.withMenu id []).choosePath 0 labels := by
  obtain ⟨target, catalog, found, shown⟩ := hasMenu
  rw [performStep_choose, openMenuOf_eq_ok unlocked found shown]
  change (session.withMenu id _).choosePath 0 labels = _
  rcases afresh with notOne | elsewhere | unexpanded
  · exact choosePath_withMenu notOne session id _
  · rw [if_neg elsewhere]
  · rw [unexpanded, ite_self]

theorem IsCoherent.performStep_choose_refused
    (coherent : session.IsCoherent)
    (refused : ¬ (session.locked = false ∧ session.HasMenu id)) :
    session.performStep (.choose (some id) labels) = .error (.noMenu id) := by
  rw [performStep_choose, coherent.openMenuOf_eq_error refused]
  rfl

/-- The step succeeds if the labels name a terminal entry of the catalog. -/
theorem IsPrepared.choose_ok_iff
    (prepared : session.IsPrepared)
    (afresh : session.StartsAfresh id labels) :
    (∃ later, session.performStep (.choose (some id) labels) = .ok later) ↔
      session.locked = false ∧ ∃ target catalog entry, session.root.find? id = some target ∧
        session.catalogs.forType? target.type = some catalog ∧
        catalog.findByLabels? labels = some entry ∧ entry.isCategory = false := by
  by_cases opens : session.locked = false ∧ session.HasMenu id
  · obtain ⟨unlocked, target, catalog, found, shown⟩ := opens
    have showing := prepared.isShowing found shown []
    have walks := showing.choosePath_ok_iff rfl labels
    rw [Catalog.columnBelow, ← Catalog.findByLabels?_eq] at walks
    rw [performStep_choose_afresh afresh unlocked ⟨target, catalog, found, shown⟩]
    refine walks.trans ?_
    constructor
    · rintro ⟨entry, named, isTerminal⟩
      exact ⟨unlocked, target, catalog, entry, found, shown, named, isTerminal⟩
    · rintro ⟨_, other, menu, entry, otherFound, menuShown, named, isTerminal⟩
      obtain rfl := Option.some.inj (found.symm.trans otherFound)
      obtain rfl := Option.some.inj (shown.symm.trans menuShown)
      exact ⟨entry, named, isTerminal⟩
  · rw [prepared.coherent.performStep_choose_refused opens]
    constructor
    · rintro ⟨later, failed⟩
      cases failed
    · rintro ⟨unlocked, target, catalog, _, found, shown, _⟩
      exact absurd ⟨unlocked, target, catalog, found, shown⟩ opens

/-- A step that starts afresh might as well start with the menu closed. -/
theorem IsCoherent.choose_eq_closed
    (coherent : session.IsCoherent)
    (afresh : session.StartsAfresh id labels) :
    session.performStep (.choose (some id) labels) =
      session.closeMenu.performStep (.choose (some id) labels) := by
  have closedAfresh : session.closeMenu.StartsAfresh id labels := Or.inr (Or.inr rfl)
  by_cases opens : session.locked = false ∧ session.HasMenu id
  · obtain ⟨unlocked, hasMenu⟩ := opens
    have closedUnlocked : session.closeMenu.locked = false := unlocked
    have closedHasMenu : session.closeMenu.HasMenu id := hasMenu
    rw [performStep_choose_afresh afresh unlocked hasMenu,
      performStep_choose_afresh closedAfresh closedUnlocked closedHasMenu]
    rfl
  · have closedRefused :
        ¬ (session.closeMenu.locked = false ∧ session.closeMenu.HasMenu id) := opens
    rw [coherent.performStep_choose_refused opens,
      session.isCoherent_closeMenu.performStep_choose_refused closedRefused]

/-- Behind categories that were expanded before, one label is looked up in the last
column. -/
theorem IsPrepared.choose_one_ok_iff
    (prepared : session.IsPrepared)
    (opened : session.openNode = some id)
    (label : String) :
    (∃ later, session.performStep (.choose (some id) [label]) = .ok later) ↔
      ∃ entry, session.menuColumns.getLast?.bind (entryLabelled? · label) = some entry ∧
        entry.isCategory = false := by
  obtain ⟨target, catalog, found, shown, resolves⟩ := prepared.coherent.menu_of_open id opened
  obtain ⟨categories, resolved⟩ := Option.isSome_iff_exists.1 resolves
  have unlocked := prepared.coherent.unlocked_of_open opened
  have same : session.withMenu id session.path = session := by
    rw [withMenu, ← opened]
  have showing := prepared.isShowing found shown session.path
  rw [same] at showing
  have last : session.menuColumns.getLast? =
      some (Catalog.columnBelow catalog.entries categories) := by
    rw [menuColumns_eq showing.shown]
    exact Catalog.getLast?_columnsFrom resolved
  rw [performStep_choose, openMenuOf_eq_ok unlocked found shown, if_pos opened, same, last,
    Option.bind_some]
  exact showing.selectLabel_ok_iff resolved label

/-- If a category is expanded, no label at the top level is that of a terminal entry. -/
theorem IsPrepared.isCategory_of_expanded
    (prepared : session.IsPrepared)
    (opened : session.openNode = some id)
    (expanded : session.path ≠ [])
    (found : session.root.find? id = some target)
    (shown : session.catalogs.forType? target.type = some catalog)
    {label : String}
    {entry : MenuEntry}
    (named : catalog.findByLabels? [label] = some entry) :
    entry.isCategory = true := by
  rw [Catalog.findByLabels?_eq, Catalog.entryAlong?_one] at named
  have isEntry : entry ∈ catalog.entries := List.mem_of_find?_eq_some named
  rcases prepared.standard.flat_or_nested shown with nested | flat
  · exact nested entry isEntry
  · exfalso
    obtain ⟨other, menu, otherFound, menuShown, resolves⟩ :=
      prepared.coherent.menu_of_open id opened
    obtain rfl := Option.some.inj (found.symm.trans otherFound)
    obtain rfl := Option.some.inj (shown.symm.trans menuShown)
    obtain ⟨categories, resolved⟩ := Option.isSome_iff_exists.1 resolves
    obtain ⟨first, rest, split⟩ := List.exists_cons_of_ne_nil expanded
    rw [split] at resolved
    obtain ⟨category, _, isIn, isCategory, _⟩ :=
      (Catalog.resolveFrom?_cons_eq_some_iff _ _ _ _).1 resolved
    rw [flat category (List.mem_of_find?_eq_some isIn)] at isCategory
    cases isCategory

/-- The tree that a step leaves, if it succeeds. -/
def treeAfter?
    (session : Session)
    (step : Step) : Option Tree :=
  match session.performStep step with
  | .ok later => some later.root
  | .error _ => none

theorem treeAfter?_eq_none_iff
    (session : Session)
    (step : Step) :
    session.treeAfter? step = none ↔ ¬ ∃ later, session.performStep step = .ok later := by
  unfold treeAfter?
  cases session.performStep step <;> simp

/-- A choice depends on the path only, and not on the menu that is open before. -/
structure ChoosesByPath
    (session : Session)
    (id : NodeId)
    (labels : List String) : Prop where
  /-- The step succeeds in an unlocked session on a node of the tree that has a catalog in
  which the labels name a terminal entry. -/
  succeeds_iff :
    (∃ later, session.performStep (.choose (some id) labels) = .ok later) ↔
      session.locked = false ∧ ∃ target catalog entry, session.root.find? id = some target ∧
        session.catalogs.forType? target.type = some catalog ∧
        catalog.findByLabels? labels = some entry ∧ entry.isCategory = false
  /-- With the menu closed before, the step succeeds as well or fails as well, and it leaves
  the same tree. -/
  same_as_closed :
    session.treeAfter? (.choose (some id) labels) =
      session.closeMenu.treeAfter? (.choose (some id) labels)

/-- A choice depends on its path only, unless the path is one label and categories are
expanded in the menu of the node already. Then the label is looked up behind these, so the
choice succeeds if the last column has a terminal entry with the label, where with the
menu closed it would fail. -/
theorem choosesByPath_iff
    {menuIds : IdSource}
    (reachable : session.IsReachable)
    (built : (Catalogs.standard.run menuIds).1 = .ok session.catalogs)
    (valid : session.root.validate = .ok ())
    (distinct : session.root.ids.Nodup)
    (fresh : session.ids.IsFreshFor Catalog.largest session.root)
    (id : NodeId) :
    (∀ labels, session.StartsAfresh id labels -> session.ChoosesByPath id labels) ∧
    (∀ label, session.openNode = some id -> session.path ≠ [] ->
      (session.ChoosesByPath id [label] ↔
        ¬ ∃ entry, session.menuColumns.getLast?.bind (entryLabelled? · label) = some entry ∧
          entry.isCategory = false)) := by
  have prepared : session.IsPrepared :=
    ⟨reachable.isCoherent, Catalogs.isStandard_of_standard built,
      (Tree.validate_eq_ok_iff _).1 valid, distinct, fresh⟩
  constructor
  · intro labels afresh
    refine ⟨prepared.choose_ok_iff afresh, ?_⟩
    rw [treeAfter?, treeAfter?, prepared.coherent.choose_eq_closed afresh]
  · intro label opened expanded
    have succeeds := prepared.choose_one_ok_iff opened label
    have notNamed : ¬ ∃ target catalog entry, session.root.find? id = some target ∧
        session.catalogs.forType? target.type = some catalog ∧
        catalog.findByLabels? [label] = some entry ∧ entry.isCategory = false := by
      rintro ⟨target, catalog, entry, found, shown, named, isTerminal⟩
      have isCategory := prepared.isCategory_of_expanded opened expanded found shown named
      rw [isTerminal] at isCategory
      cases isCategory
    constructor
    · intro byPath isThere
      exact notNamed (byPath.succeeds_iff.1 (succeeds.2 isThere)).2
    · intro nothing
      have fails : ¬ ∃ later, session.performStep (.choose (some id) [label]) = .ok later :=
        fun success => nothing (succeeds.1 success)
      have closedFails :
          ¬ ∃ later, session.closeMenu.performStep (.choose (some id) [label]) = .ok later := by
        intro success
        have afresh : session.closeMenu.StartsAfresh id [label] := Or.inr (Or.inr rfl)
        exact notNamed ((prepared.closeMenu.choose_ok_iff afresh).1 success).2
      constructor
      · constructor
        · intro success
          exact absurd success fails
        · intro named
          exact absurd named.2 notNamed
      · rw [(treeAfter?_eq_none_iff _ _).2 fails, (treeAfter?_eq_none_iff _ _).2 closedFails]

/-- A blank session in whose menu the constructors have been expanded. -/
def expandedBlank : Session :=
  (counting { stem := "n", next := 1 } (.placeholder "n0" .claim) Catalogs.numbered).performAll
    [.openMenu "n0", .hover 0 "m27"]

theorem expandedBlank_root : expandedBlank.root = .placeholder "n0" .claim := by
  with_unfolding_all rfl

theorem expandedBlank_catalogs : expandedBlank.catalogs = Catalogs.numbered :=
  (catalogs_perform _ _).trans (catalogs_perform _ _)

theorem expandedBlank_menu :
    expandedBlank.openNode = some "n0" ∧ expandedBlank.path = ["m27"] := by
  constructor <;> decide +kernel

theorem expandedBlank_reachable : expandedBlank.IsReachable :=
  ⟨_, _, _, _, rfl⟩

theorem expandedBlank_prepared : expandedBlank.IsPrepared := by
  have valid : (Tree.placeholder "n0" .claim).Grammatical := grammatical_placeholder _ _
  have distinct : (Tree.placeholder "n0" .claim).ids.Nodup := by
    rw [ids_placeholder]
    decide
  have resumed : ({ stem := "n" } : SequentialIds).resumeAfter? (Tree.placeholder "n0" .claim).ids =
      some { stem := "n", next := 1 } := by
    rw [ids_placeholder]
    decide +kernel
  have supplied : expandedBlank.IsSupplied "n" Catalog.largest := by
    apply (isSupplied_counting Catalogs.isStandard_numbered valid distinct resumed
      (by decide)).performAll
    simp [Operation.Avoids]
  have undrawn : expandedBlank.ids.drawn = 0 := by decide +kernel
  refine ⟨supplied.coherent, supplied.standard, supplied.valid, supplied.distinct, ?_⟩
  apply supplied.isFreshFor
  rw [undrawn, Nat.zero_add]

/-- A path through other categories than the ones that were expanded before, and a label
that the last column does not have. -/
theorem choosesByPath_expanded :
    expandedBlank.IsReachable ∧
      (Catalogs.standard.run (.numbered "m")).1 = .ok expandedBlank.catalogs ∧
      expandedBlank.root.validate = .ok () ∧ expandedBlank.root.ids.Nodup ∧
      expandedBlank.ids.IsFreshFor Catalog.largest expandedBlank.root ∧
      expandedBlank.StartsAfresh "n0" ["Fragments", "Settlement", "Cash", "Call"] ∧
      expandedBlank.ChoosesByPath "n0" ["Fragments", "Settlement", "Cash", "Call"] ∧
      expandedBlank.openNode = some "n0" ∧ expandedBlank.path ≠ [] ∧
      (expandedBlank.ChoosesByPath "n0" ["Call"] ↔
        ¬ ∃ entry, expandedBlank.menuColumns.getLast?.bind (entryLabelled? · "Call") =
          some entry ∧ entry.isCategory = false) := by
  have prepared := expandedBlank_prepared
  have built : (Catalogs.standard.run (.numbered "m")).1 = .ok expandedBlank.catalogs := by
    rw [expandedBlank_catalogs]
    exact Catalogs.standard_numbered
  have valid : expandedBlank.root.validate = .ok () :=
    (Tree.validate_eq_ok_iff _).2 prepared.valid
  have afresh : expandedBlank.StartsAfresh "n0" ["Fragments", "Settlement", "Cash", "Call"] :=
    Or.inl (by decide)
  have expanded : expandedBlank.path ≠ [] := by
    rw [expandedBlank_menu.2]
    exact List.cons_ne_nil _ _
  have byPath := choosesByPath_iff expandedBlank_reachable built valid prepared.distinct
    prepared.fresh "n0"
  exact ⟨expandedBlank_reachable, built, valid, prepared.distinct, prepared.fresh, afresh,
    byPath.1 _ afresh, expandedBlank_menu.1, expanded,
    byPath.2 "Call" expandedBlank_menu.1 expanded⟩

/-- A constructor is chosen by its label alone behind the category that was expanded
before. No such entry is named by this label, and with the menu closed the choice fails. -/
theorem choose_behind_expanded_category :
    expandedBlank.IsReachable ∧
      Catalogs.numbered.claims.findByLabels? ["Zero"] = none ∧
      (∃ later, expandedBlank.performStep (.choose (some "n0") ["Zero"]) = .ok later) ∧
      (¬ ∃ later,
        expandedBlank.closeMenu.performStep (.choose (some "n0") ["Zero"]) = .ok later) ∧
      ¬ expandedBlank.ChoosesByPath "n0" ["Zero"] := by
  have prepared := expandedBlank_prepared
  have unnamed : Catalogs.numbered.claims.findByLabels? ["Zero"] = none := by
    have missing : (Catalogs.numbered.claims.findByLabels? ["Zero"]).isNone = true := by
      decide +kernel
    exact Option.isNone_iff_eq_none.1 missing
  have notNamed : ¬ ∃ target catalog entry,
      expandedBlank.root.find? "n0" = some target ∧
      expandedBlank.catalogs.forType? target.type = some catalog ∧
      catalog.findByLabels? ["Zero"] = some entry ∧ entry.isCategory = false := by
    rintro ⟨target, catalog, entry, found, shown, named, _⟩
    rw [expandedBlank_root, Tree.find?_eq, if_pos (by rfl)] at found
    obtain rfl := Option.some.inj found
    rw [expandedBlank_catalogs] at shown
    obtain rfl := Option.some.inj shown
    rw [unnamed] at named
    cases named
  have succeeds : ∃ later,
      expandedBlank.performStep (.choose (some "n0") ["Zero"]) = .ok later := by
    have shown : (expandedBlank.menuColumns.getLast?.bind
        (entryLabelled? · "Zero")).map MenuEntry.isCategory = some false := by
      decide +kernel
    rw [prepared.choose_one_ok_iff expandedBlank_menu.1]
    exact Option.map_eq_some_iff.1 shown
  have afresh : expandedBlank.closeMenu.StartsAfresh "n0" ["Zero"] := Or.inr (Or.inr rfl)
  refine ⟨expandedBlank_reachable, unnamed, succeeds, ?_, ?_⟩
  · intro success
    exact notNamed ((prepared.closeMenu.choose_ok_iff afresh).1 success).2
  · intro byPath
    exact notNamed (byPath.succeeds_iff.1 succeeds).2

end Session
end ContingentClaims
