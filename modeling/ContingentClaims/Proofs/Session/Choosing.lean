import ContingentClaims.Proofs.Session.Coherence
import ContingentClaims.Proofs.Session.Filling
import ContingentClaims.Proofs.Tree.Shape

/-!
# Choosing from a menu

A choice takes effect if the open menu offers it and the names that its template draws
are new to the tree. The open node then has the shape of the template's tree. A template
brings no text for its root, so an alternative keeps its label.
-/

namespace ContingentClaims

/-! ## Templates of the menus -/

theorem Catalog.textless_written
    (type : NodeType)
    (names : IdSource) :
    ((Catalog.written type).all fun template => (template.run names).1.text.isNone) = true := by
  cases type <;> rfl

/-- No template of the menus has a text on its root. -/
theorem Catalogs.IsStandard.text_eq_none
    {catalogs : Catalogs}
    {catalog : Catalog}
    {type : NodeType}
    {entry : NodeId}
    {choice : MenuEntry}
    {template : Template}
    (standard : catalogs.IsStandard)
    (shown : catalogs.forType? type = some catalog)
    (found : catalog.find? entry = some choice)
    (offered : choice.template = some template)
    (names : IdSource) :
    (template.run names).1.text = none := by
  have present := standard.mem_written shown found offered
  have textless := List.all_eq_true.1 (Catalog.textless_written type names) template present
  exact Option.isNone_iff_eq_none.1 textless

/-! ## Effect -/

namespace Session

variable {session : Session} {entry : NodeId} {node : Tree} {template : Template}

/-- The open menu is that of a node and has a terminal entry with a template. -/
def Offers
    (session : Session)
    (entry : NodeId)
    (node : Tree)
    (template : Template) : Prop :=
  ∃ catalog choice, session.openNode = some node.id ∧
    session.root.find? node.id = some node ∧
    session.catalogs.forType? node.type = some catalog ∧
    catalog.find? entry = some choice ∧ choice.template = some template

/-- The tree of a choice that is offered is put in the place of the open node. -/
theorem Offers.select_eq_replace
    (offers : session.Offers entry node template) :
    session.select entry =
      ({ session with ids := (template.run session.ids).2 } : Session).replace node.id
        (template.run session.ids).1 := by
  obtain ⟨catalog, choice, opened, found, shown, chosen, offered⟩ := offers
  have isShown : session.menu? = some catalog := by
    rw [menu?_of_find? opened found, shown]
  simp only [select, opened, isShown, chosen, offered, Option.bind_eq_bind, Option.bind_some]
  rfl

/-- A choice that is not offered does nothing. -/
theorem select_eq_of_not_offers
    (refused : ¬ ∃ node template, session.Offers entry node template) :
    session.select entry = (session, false) := by
  rcases session.select_cases entry with
    same | ⟨_, catalog, choice, template, _, shown, chosen, offered, _⟩
  · exact same
  · obtain ⟨id, node, isOpen, found, typed⟩ := exists_node_of_menu? shown
    obtain ⟨_, _, named, _⟩ := Tree.exists_context_of_find? found
    subst named
    exact absurd ⟨node, template, catalog, choice, isOpen, found, typed, chosen, offered⟩ refused

/-- A choice that is offered takes effect if the names of its tree are new: the node takes
over the tree of the template, and an alternative keeps its label. -/
theorem Offers.select_eq
    (offers : session.Offers entry node template)
    (standard : session.catalogs.IsStandard)
    (valid : session.root.Grammatical)
    (distinct : session.root.ids.Nodup)
    (fresh : session.ids.IsFreshFor (template.run session.ids).1.preorder.length session.root) :
    ∃ context : Context,
      session.root = context.plug node ∧
        session.select entry =
          ({ session with
              root := context.plug
                ((template.run session.ids).1.takeOver (session.root.isElectable node.id) node)
              ids := (template.run session.ids).2, openNode := none, path := [] }, true) := by
  have selected := offers.select_eq_replace
  obtain ⟨catalog, choice, opened, found, shown, chosen, offered⟩ := offers
  have skeleton := standard.isSkeleton shown chosen offered
  have textless := standard.text_eq_none shown chosen offered session.ids
  have operator : node.type ≠ .value := (session.catalogs.exists_forType?_iff _).1 ⟨_, shown⟩
  obtain ⟨context, whole, _, _⟩ := Tree.exists_context_of_find? found
  have numbered := skeleton.ids_eq session.ids
  rw [IdSource.names_eq_upcoming] at numbered
  refine ⟨context, whole, ?_⟩
  have distinctInPlace : (context.plug node).ids.Nodup := whole ▸ distinct
  have validInPlace : (context.plug node).Grammatical := whole ▸ valid
  have spliced := Context.splice?_of_isFreshFor distinctInPlace (skeleton.grammatical session.ids)
    (Context.suits_of_type validInPlace operator (skeleton.typed session.ids)) numbered
    (whole ▸ fresh)
  rw [← Context.isElectable_plug distinctInPlace, ← whole, textless, Option.isNone_none,
    Bool.true_and] at spliced
  rw [selected, Session.replace, spliced]
  rfl

/-- What a session answers to a choice, and what becomes of the open node. -/
structure ChoosesAsShown
    (session : Session)
    (entry : NodeId) : Prop where
  /-- The open menu is that of a node of the tree with a catalog. -/
  menu_of_open :
    ∀ id, session.openNode = some id ->
      ∃ node catalog, session.root.find? id = some node ∧
        session.catalogs.forType? node.type = some catalog
  /-- A choice takes effect exactly if the open menu offers it. -/
  took_iff :
    (session.select entry).2 = true ↔ ∃ node template, session.Offers entry node template
  /-- The menu closes, and the node keeps its identifier, has the tag and the shape of the
  template's tree, and keeps its label if it is an alternative. -/
  effect :
    ∀ node template, session.Offers entry node template ->
      (session.select entry).1.openNode = none ∧ (session.select entry).1.path = [] ∧
        ∃ made chosen : Tree,
          made = (template.run session.ids).1 ∧
          (session.select entry).1.root.find? node.id = some chosen ∧
          chosen.id = node.id ∧ chosen.tag = made.tag ∧
          chosen.sameShape
            { made with
              text := if session.root.isElectable node.id then node.text else made.text } = true

/-- A coherent session chooses as its menu shows if the names of the templates are new. -/
theorem IsCoherent.choosesAsShown
    (coherent : session.IsCoherent)
    (standard : session.catalogs.IsStandard)
    (valid : session.root.Grammatical)
    (distinct : session.root.ids.Nodup)
    (fresh : ∀ node template, session.Offers entry node template ->
      session.ids.IsFreshFor (template.run session.ids).1.preorder.length session.root) :
    session.ChoosesAsShown entry := by
  refine ⟨?_, ?_, ?_⟩
  · intro id opened
    obtain ⟨node, catalog, found, shown, _⟩ := coherent.menu_of_open id opened
    exact ⟨node, catalog, found, shown⟩
  · constructor
    · intro took
      by_contra refused
      rw [select_eq_of_not_offers refused] at took
      cases took
    · rintro ⟨node, template, offers⟩
      obtain ⟨context, _, selected⟩ :=
        offers.select_eq standard valid distinct (fresh node template offers)
      rw [selected]
  · intro node template offers
    obtain ⟨context, whole, selected⟩ :=
      offers.select_eq standard valid distinct (fresh node template offers)
    have notBefore := (Context.distinct_parts (whole ▸ distinct)).1
    have foundInPlace (changed : Tree) (named : changed.id = node.id) :
        (context.plug changed).find? node.id = some changed := by
      apply Context.find?_plug notBefore
      rw [Tree.find?_eq, if_pos named]
    rw [selected]
    refine ⟨rfl, rfl, _, _, rfl, foundInPlace _ rfl, rfl, rfl, ?_⟩
    have own := (Tree.sameShape_iff _ _).1 (template.run session.ids).1.sameShape_self
    rw [Tree.sameShape_iff]
    exact ⟨rfl, rfl, rfl, own.2.2.2⟩

end Session
end ContingentClaims
