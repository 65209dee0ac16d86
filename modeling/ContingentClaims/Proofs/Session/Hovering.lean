import ContingentClaims.Proofs.Menu.Columns
import ContingentClaims.Proofs.Session.Coherence

/-!
# Expanding categories by hovering

The pointer on an entry of a column cuts the expanded path at this column and extends it.
That is refused or not by the catalog alone, and it agrees with the columns that are shown:
a session expands exactly the categories of the column.
-/

namespace ContingentClaims

namespace Session

variable {session : Session}

/-- Hovering over an entry agrees with the columns that are shown. -/
structure HoverAgrees
    (session : Session)
    (depth : Nat)
    (id : NodeId) : Prop where
  /-- The column is shown, and it is its categories that can be expanded. -/
  took_iff :
    ∃ column, session.menuColumns[min depth session.path.length]? = some column ∧
      ((session.hover depth id).2 = true ↔
        ∃ entry ∈ column, entry.id = id ∧ entry.isCategory = true)
  /-- The path is cut at the column and extended. -/
  took :
    (session.hover depth id).2 = true ->
      (session.hover depth id).1 =
        { session with path := session.path.take (min depth session.path.length) ++ [id] }
  /-- Nothing happens otherwise. -/
  refused : (session.hover depth id).2 = false -> (session.hover depth id).1 = session

theorem hover_eq
    (session : Session)
    (depth : Nat)
    (id : NodeId) :
    session.hover depth id =
      session.expand (session.path.take (min depth session.path.length) ++ [id]) := by
  rw [hover, List.take_eq_take_min]

/-- A path is expanded if it resolves in the catalog of the open menu. -/
theorem expand_took_iff
    {catalog : Catalog}
    (shown : session.menu? = some catalog)
    (path : List NodeId) :
    (session.expand path).2 = true ↔ (catalog.resolvePath? path).isSome = true := by
  simp only [expand, shown]
  cases catalog.resolvePath? path <;> simp

theorem hoverAgrees_of_resolved
    {catalog : Catalog}
    {categories : List MenuEntry}
    (shown : session.menu? = some catalog)
    (resolved : catalog.resolvePath? session.path = some categories)
    (distinct : catalog.IsDistinct)
    (depth : Nat)
    (id : NodeId) :
    session.HoverAgrees depth id := by
  have isShown : session.menuColumns[min depth session.path.length]? =
      some (Catalog.columnBelow catalog.entries
        (categories.take (min depth session.path.length))) := by
    rw [menuColumns_eq shown]
    exact Catalog.getElem?_columnsFrom_take resolved (Nat.min_le_right _ _)
  have kept := Catalog.resolveFrom?_take resolved (min depth session.path.length)
  have listed := Catalog.isSome_resolvePath?_concat_iff distinct kept id
  rw [← expand_took_iff shown, ← hover_eq] at listed
  rcases session.expand_cases (session.path.take (min depth session.path.length) ++ [id]) with
    same | ⟨_, _, _, _, expanded⟩
  · rw [← hover_eq] at same
    exact ⟨⟨_, isShown, listed⟩, by simp [same], by simp [same]⟩
  · rw [← hover_eq] at expanded
    exact ⟨⟨_, isShown, listed⟩, by simp [expanded], by simp [expanded]⟩

/-- Where the identifiers of the open menu are distinct, hovering agrees with its columns. -/
theorem IsReachable.hoverAgrees
    (reachable : session.IsReachable)
    (isOpen : session.openNode.isSome = true)
    (distinct : ∀ catalog, session.menu? = some catalog -> catalog.IsDistinct)
    (depth : Nat)
    (id : NodeId) :
    session.HoverAgrees depth id := by
  obtain ⟨node, opened⟩ := Option.isSome_iff_exists.1 isOpen
  obtain ⟨tree, catalog, found, typed, resolves⟩ := reachable.isCoherent.menu_of_open node opened
  obtain ⟨categories, resolved⟩ := Option.isSome_iff_exists.1 resolves
  have shown : session.menu? = some catalog := (menu?_of_find? opened found).trans typed
  exact hoverAgrees_of_resolved shown resolved (distinct catalog shown) depth id

/-- The identifiers of a menu are distinct if the catalogs are those that were built. -/
theorem isDistinct_menu_of_standard
    (standard : session.catalogs.IsStandard)
    {catalog : Catalog}
    (shown : session.menu? = some catalog) :
    catalog.IsDistinct := by
  obtain ⟨_, node, _, _, typed⟩ := exists_node_of_menu? shown
  exact standard.distinct node.type catalog typed

/-- The menu agrees with itself. If the identifiers of a catalog are distinct, the columns of
every path are those along its longest prefix that resolves. In every session that comes about,
a category is expanded by hovering if it is listed in the column that is hovered over, as long
as the identifiers of the open menu are distinct; those of the catalogs that are built are. -/
theorem navigation_agrees :
    (∀ catalog : Catalog, catalog.IsDistinct -> ∀ path, catalog.ColumnsAgree path) ∧
      (∀ session : Session, session.IsReachable -> session.openNode.isSome = true ->
        (∀ catalog, session.menu? = some catalog -> catalog.IsDistinct) ->
          ∀ depth id, session.HoverAgrees depth id) ∧
      ∀ session : Session, session.IsReachable -> session.openNode.isSome = true ->
        (∃ ids, (Catalogs.standard.run ids).1 = .ok session.catalogs) ->
          ∀ depth id, session.HoverAgrees depth id := by
  refine ⟨fun catalog distinct path => Catalog.columnsAgree distinct path,
    fun session reachable isOpen distinct => reachable.hoverAgrees isOpen distinct, ?_⟩
  rintro session reachable isOpen ⟨ids, built⟩
  have standard := Catalogs.isStandard_of_standard built
  exact reachable.hoverAgrees isOpen fun catalog shown => isDistinct_menu_of_standard standard shown

/-- A stale path in a menu with one category, which shows two columns, and hovering over this
category and over the first one of the numbered menu. -/
theorem navigation_agrees_stale :
    let zero : MenuEntry := { id := "m1", label := "Zero", template := some Template.zero }
    let catalog : Catalog := ⟨.claim, [{ id := "m0", label := "Claims", children := [zero] }]⟩
    let start : Session :=
      { root := .placeholder "n0" .claim
        catalogs := ⟨catalog, ⟨.observation, []⟩, ⟨.inequality, []⟩⟩
        ids := .numbered "x" }
    let session := start.performAll [.openMenu "n0"]
    let numbered := { start with catalogs := Catalogs.numbered }.performAll [.openMenu "n0"]
    catalog.IsDistinct ∧ catalog.ColumnsAgree ["m0", "m1", "m2"] ∧
      session.IsReachable ∧ session.openNode = some "n0" ∧ session.menu? = some catalog ∧
      session.HoverAgrees 3 "m0" ∧
      numbered.IsReachable ∧ numbered.openNode = some "n0" ∧
      (Catalogs.standard.run (.numbered "m")).1 = .ok numbered.catalogs ∧
      numbered.HoverAgrees 0 "m27" := by
  intro zero catalog start session numbered
  have distinct : catalog.IsDistinct := by
    simp [Catalog.IsDistinct, catalog, zero]
  have reachable : session.IsReachable := ⟨_, _, _, _, rfl⟩
  have opened : session.openNode = some "n0" := rfl
  have shown : session.menu? = some catalog := rfl
  have agrees : session.HoverAgrees 3 "m0" := by
    refine navigation_agrees.2.1 session reachable (by rw [opened]; rfl) ?_ 3 "m0"
    intro other isShown
    rw [shown] at isShown
    obtain rfl := Option.some.inj isShown
    exact distinct
  have numberedReachable : numbered.IsReachable := ⟨_, _, _, _, rfl⟩
  have numberedOpened : numbered.openNode = some "n0" := rfl
  have built : (Catalogs.standard.run (.numbered "m")).1 = .ok numbered.catalogs := by
    have same : numbered.catalogs = Catalogs.numbered := catalogs_perform _ _
    rw [Catalogs.standard_numbered, same]
  exact ⟨distinct, navigation_agrees.1 catalog distinct _, reachable, opened, shown, agrees,
    numberedReachable, numberedOpened, built,
    navigation_agrees.2.2 numbered numberedReachable (by rw [numberedOpened]; rfl)
      ⟨_, built⟩ 0 "m27"⟩

end Session
end ContingentClaims
