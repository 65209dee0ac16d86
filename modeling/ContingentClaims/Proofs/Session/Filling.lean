import ContingentClaims.Proofs.Decoding.Denotation
import ContingentClaims.Proofs.Menu.Skeletons
import ContingentClaims.Proofs.Session.Freshness
import ContingentClaims.Proofs.Session.Invariant
import ContingentClaims.Proofs.Term.Zeros

/-!
# Filling in slots

Slots are filled in by choices from the menus, typed leaves and labels. As long as the
source does not run out of names, each of these takes effect wherever it is
admissible, and the session is ready for the next.
-/

namespace ContingentClaims

/-- The operations by which slots are filled in. -/
def Operation.fills : Operation -> Bool
  | openMenu _ => true
  | select _ => true
  | setLabel _ _ => true
  | setLeaf _ _ _ => true
  | _ => false

/-! ## The nodes of leaves -/

theorem Leaf.ids_encode
    (leaf : Leaf)
    (source : IdSource) :
    (leaf.encode.run source).1.ids = IdSource.names 1 source := by
  rw [Tree.ids_eq]
  rfl

/-! ## Reaching a session -/

namespace Session

/-- A session is reached from another one by filling in slots. -/
def Reaches (session later : Session) : Prop :=
  ∃ operations : List Operation,
    (∀ operation ∈ operations, operation.fills = true) ∧
      session.performAll operations = later

theorem Reaches.refl (session : Session) : session.Reaches session :=
  ⟨[], List.forall_mem_nil _, rfl⟩

theorem Reaches.trans
    {session middle later : Session}
    (first : session.Reaches middle)
    (second : middle.Reaches later) :
    session.Reaches later := by
  obtain ⟨firstOperations, firstFills, rfl⟩ := first
  obtain ⟨secondOperations, secondFills, rfl⟩ := second
  refine ⟨firstOperations ++ secondOperations, ?_, performAll_append session _ _⟩
  exact List.forall_mem_append.2 ⟨firstFills, secondFills⟩

/-! ## When operations take effect -/

variable {session : Session} {id entry : NodeId} {node subtree root : Tree}

/-- The menu of an operator node opens, or is open already. -/
theorem openMenu_of_find?
    (unlocked : session.locked = false)
    (found : session.root.find? id = some node)
    (operator : node.type ≠ .value) :
    ∃ path, session.openMenu id = { session with openNode := some id, path } := by
  by_cases opened : session.openNode = some id
  · refine ⟨session.path, ?_⟩
    simp [openMenu, ← opened]
  · refine ⟨[], ?_⟩
    simp [openMenu, unlocked, opened, found, operator]

/-- A choice of the open menu takes effect if its tree can be spliced in. -/
theorem select_of_splice?
    {catalog : Catalog}
    {choice : MenuEntry}
    {template : Template}
    (opened : session.openNode = some id)
    (shown : session.menu? = some catalog)
    (found : catalog.find? entry = some choice)
    (offered : choice.template = some template)
    (spliced : session.root.splice? id (template.run session.ids).1 = some root) :
    (session.select entry).1 =
      { session with
        root, ids := (template.run session.ids).2, openNode := none, path := [] } := by
  rcases yielded : template.run session.ids with ⟨subtree, ids⟩
  rw [yielded] at spliced
  simp [select, replace, closeMenu, opened, shown, found, offered, yielded, spliced]

/-- A leaf takes effect if it is read, the node takes leaves of its kind, and its node
can be spliced in. -/
theorem setLeaf_of_splice?
    {kind : LeafKind}
    {literal : String}
    {leaf : Leaf}
    (found : session.root.find? id = some node)
    (accepted : session.inputError? node kind = none)
    (read : Leaf.ofLiteral kind literal = .ok leaf)
    (spliced : session.root.splice? id (leaf.encode.run session.ids).1 = some root) :
    session.setLeaf id kind literal =
      ({ session with
        root, ids := (leaf.encode.run session.ids).2, openNode := none, path := [] },
        .ok true) := by
  rcases encoded : leaf.encode.run session.ids with ⟨subtree, ids⟩
  rw [encoded] at spliced
  simp [setLeaf_eq, replace, closeMenu, found, accepted, read, encoded, spliced]

/-! ## Sessions that are ready -/

/-- A session in which slots can be filled in: unlocked, with given catalogs, on a
sound tree whose identifiers were drawn from the source, which does not repeat itself
below a limit. -/
structure IsReady
    (catalogs : Catalogs)
    (rootId : NodeId)
    (limit : Nat)
    (session : Session) : Prop where
  unlocked : session.locked = false
  menus : session.catalogs = catalogs
  sound : session.root.IsSound rootId
  /-- Names do not repeat below the limit. -/
  distinct : session.ids.IsDistinctBelow limit
  /-- Every identifier has been drawn. -/
  issued :
    ∀ id ∈ session.root.ids, ∃ position < session.ids.drawn, session.ids.nameAt position = id

variable {catalogs : Catalogs} {rootId : NodeId} {limit amount : Nat} {context : Context}

/-- The session in which the next names of the source have come into the tree. -/
def grown
    (session : Session)
    (amount : Nat)
    (root : Tree) : Session :=
  { session with root, ids := session.ids.skip amount, openNode := none, path := [] }

/-- Below the limit, the next names are new to the tree. -/
theorem IsReady.isFreshFor
    (ready : session.IsReady catalogs rootId limit)
    (room : session.ids.drawn + amount ≤ limit) :
    session.ids.IsFreshFor amount session.root := by
  constructor
  · rw [← IdSource.names_eq_upcoming]
    exact IdSource.nodup_names ready.distinct room
  · intro id upcoming present
    rw [← IdSource.names_eq_upcoming] at upcoming
    obtain ⟨old, oldDrawn, rfl⟩ := ready.issued id present
    obtain ⟨position, low, high, same⟩ := (IdSource.mem_names_iff _ _ _).1 upcoming
    have equal := ready.distinct position (by omega) old (by omega) same
    omega

/-- A subtree with the next names of the source is spliced in wherever it suits, and
the session is ready again. -/
theorem IsReady.splice
    (ready : session.IsReady catalogs rootId limit)
    (whole : session.root = context.plug node)
    (valid : subtree.Grammatical)
    (suitable : context.suits node subtree = true)
    (numbered : subtree.ids = IdSource.names amount session.ids)
    (room : session.ids.drawn + amount ≤ limit) :
    ∃ root,
      root = context.plug
        (subtree.takeOver (subtree.text.isNone && context.isElectable) node) ∧
      session.root.splice? node.id subtree = some root ∧
      (session.grown amount root).IsReady catalogs rootId limit := by
  have distinct : (context.plug node).ids.Nodup := whole ▸ ready.sound.distinct
  have spliced := Context.splice?_of_isFreshFor distinct valid suitable
    (numbered.trans (IdSource.names_eq_upcoming _ _)) (whole ▸ ready.isFreshFor room)
  rw [← whole] at spliced
  refine ⟨_, rfl, spliced, ?_⟩
  refine ⟨ready.unlocked, ready.menus, ready.sound.splice spliced, ready.distinct, ?_⟩
  intro id present
  rcases Context.mem_ids_of_plug_takeOver present with isNew | isOld
  · have isDrawn := Tree.mem_ids_of_mem_idsBelow isNew
    rw [numbered] at isDrawn
    obtain ⟨position, low, high, same⟩ := (IdSource.mem_names_iff _ _ _).1 isDrawn
    exact ⟨position, high, same⟩
  · rw [← whole] at isOld
    obtain ⟨position, drawn, same⟩ := ready.issued id isOld
    exact ⟨position, Nat.lt_of_lt_of_le drawn (Nat.le_add_right _ amount), same⟩

/-- Wherever a node is an operator, the tree of a template for its type can be chosen. -/
theorem IsReady.choose
    {catalog : Catalog}
    {template : Template}
    (standard : catalogs.IsStandard)
    (ready : session.IsReady catalogs rootId limit)
    (whole : session.root = context.plug node)
    (shown : catalogs.forType? node.type = some catalog)
    (present : template ∈ catalog.templates)
    (counted : (template.run session.ids).1.preorder.length = amount)
    (room : session.ids.drawn + amount ≤ limit) :
    ∃ root,
      root = context.plug ((template.run session.ids).1.takeOver
        ((template.run session.ids).1.text.isNone && context.isElectable) node) ∧
      session.Reaches (session.grown amount root) ∧
      (session.grown amount root).IsReady catalogs rootId limit := by
  obtain ⟨choice, found, offered⟩ := standard.exists_entry shown present
  have skeleton := standard.isSkeleton shown found offered
  have operator : node.type ≠ .value := by
    intro isValue
    simp [isValue, Catalogs.forType?] at shown
  have valid : (context.plug node).Grammatical := whole ▸ ready.sound.grammatical
  have numbered := skeleton.ids_eq session.ids
  rw [counted] at numbered
  obtain ⟨root, changed, spliced, grownReady⟩ := ready.splice whole
    (skeleton.grammatical session.ids)
    (Context.suits_of_type valid operator (skeleton.typed session.ids)) numbered room
  refine ⟨root, changed, ⟨[.openMenu node.id, .select choice.id], by simp [Operation.fills], ?_⟩,
    grownReady⟩
  have isThere := Context.find?_of_distinct whole ready.sound.distinct
  obtain ⟨path, opened⟩ := openMenu_of_find? ready.unlocked isThere operator
  have openMenuShown :
      ({ session with openNode := some node.id, path } : Session).menu? = some catalog := by
    simp [menu?, isThere, ready.menus, shown]
  have selected := select_of_splice? rfl openMenuShown found offered spliced
  have drawn := skeleton.drawn session.ids
  rw [counted, IdSource.after_eq_skip] at drawn
  simp only [performAll_cons, performAll_nil, perform, opened, selected, drawn]
  rfl

/-- Wherever a slot asks for a leaf, a literal of this leaf can be typed. -/
theorem IsReady.typeLeaf
    {leaf : Leaf}
    {literal : String}
    (ready : session.IsReady catalogs rootId limit)
    (whole : session.root = context.plug node)
    (asked : context.slot? = some (.leaf leaf.kind))
    (read : Leaf.ofLiteral leaf.kind literal = .ok leaf)
    (room : session.ids.drawn + 1 ≤ limit) :
    ∃ root filled,
      root = context.plug filled ∧ filled.leaf = .ok leaf ∧
      session.Reaches (session.grown 1 root) ∧
      (session.grown 1 root).IsReady catalogs rootId limit := by
  have encoded := Leaf.leaf_encode leaf session.ids
  have accepted := Tree.accepts_of_leaf encoded
  have suitable : context.suits node (leaf.encode.run session.ids).1 = true := by
    rw [Context.suits, asked]
    exact accepted
  obtain ⟨root, changed, spliced, grownReady⟩ := ready.splice whole
    (Tree.grammatical_of_leaf encoded) suitable (Leaf.ids_encode leaf session.ids) room
  refine ⟨root, _, changed, ?_,
    ⟨[.setLeaf node.id leaf.kind literal], by simp [Operation.fills], ?_⟩, grownReady⟩
  · rw [Tree.leaf_eq_ok_iff] at encoded ⊢
    exact encoded
  · have distinct := whole ▸ ready.sound.distinct
    have isThere := Context.find?_of_distinct whole ready.sound.distinct
    have isLeaf : node.type = .value := by
      rw [← Tree.type_of_suits (whole ▸ ready.sound.grammatical) suitable]
      rfl
    have noError : session.inputError? node leaf.kind = none := by
      simp [inputError?, isLeaf, whole, Context.slotOf?_plug distinct, asked]
    rw [performAll_cons, performAll_nil, perform_setLeaf,
      setLeaf_of_splice? isThere noError read spliced]
    rfl

/-- An alternative can be given any label. -/
theorem IsReady.label
    (ready : session.IsReady catalogs rootId limit)
    (whole : session.root = context.plug node)
    (electable : context.isElectable = true)
    (label : String) :
    ∃ later : Session,
      session.Reaches later ∧ later.IsReady catalogs rootId limit ∧
        later.root = context.plug (node.withText label) ∧ later.ids = session.ids := by
  by_cases same : node.text = some label
  · have unchanged : node.withText label = node := by
      cases node
      rw [Tree.withText, ← same]
    exact ⟨session, .refl session, ready, by rw [unchanged, whole], rfl⟩
  · have distinct := whole ▸ ready.sound.distinct
    have relabelled : session.root.relabel? node.id label =
        some (context.plug (node.withText label)) := by
      rw [whole, Context.relabel?_plug distinct]
      simp [electable, same]
    refine ⟨{ session with root := context.plug (node.withText label) },
      ⟨[.setLabel node.id label], by simp [Operation.fills], ?_⟩, ?_, rfl, rfl⟩
    · simp [perform, setLabel, ready.unlocked, relabelled]
    · refine ⟨ready.unlocked, ready.menus, ready.sound.relabel relabelled, ready.distinct, ?_⟩
      intro id present
      apply ready.issued
      rw [Context.ids_plug, Tree.ids_withText, ← Context.ids_plug] at present
      exact whole ▸ present

end Session
end ContingentClaims
