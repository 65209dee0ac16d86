import ContingentClaims.Proofs.Menu.Operands
import ContingentClaims.Proofs.Menu.Soundness
import ContingentClaims.Proofs.Session.Draws
import ContingentClaims.Proofs.Session.Filling
import Mathlib.Algebra.Order.BigOperators.Group.List

/-!
# What the menus can express

Every term of the class that the menus express is filled in at any slot that it suits,
wherever the slot is in the tree and whatever else is still open: the template of its
constructor is chosen, and then its operands are filled in from left to right. Together
with what the sessions can make at all, this says exactly which claims are submitted
from a session that starts blank.
-/

namespace ContingentClaims

/-! ## Places of operands -/

/-- Whether a part may fill a slot in its context. -/
def Part.Suits (context : Context) : Part -> Prop
  | .electable _ => context.isElectable = true
  | .leaf content => context.slot? = some (.leaf content.kind)
  | _ => True

/-- An operand suits the place that its parent has for it. -/
theorem Part.SuitsAt.suits
    {part : Part}
    {frame : Frame}
    {outer : Context}
    (suited : part.SuitsAt frame.type frame.tag frame.position) :
    part.Suits (frame :: outer) := by
  cases part with
  | electable term => simpa [Suits, SuitsAt, Context.isElectable] using suited
  | leaf content => exact suited
  | _ => trivial

/-! ## Filling in a part -/

/-- A part can be filled in by any session that is ready, at any place that it suits,
with fewer than two names for each of its constructors and leaves. -/
def Part.Fillable
    (catalogs : Catalogs)
    (part : Part) : Prop :=
  ∀ (session : Session) (rootId : NodeId) (limit : Nat) (context : Context) (node : Tree),
    session.IsReady catalogs rootId limit ->
    session.root = context.plug node ->
    node.type = part.type ->
    part.Suits context ->
    session.ids.drawn + 2 * part.size ≤ limit + 1 ->
    ∃ later filled,
      session.Reaches later ∧ later.IsReady catalogs rootId limit ∧
        later.root = context.plug filled ∧ filled.StandsFor part ∧
        later.ids.drawn < session.ids.drawn + 2 * part.size

namespace Part

variable {catalogs : Catalogs}

/-- A leaf is typed. -/
theorem fillable_leaf
    {leaf : Leaf}
    (typed : leaf.IsTyped) :
    (Part.leaf leaf).Fillable catalogs := by
  intro session rootId limit context node ready whole sameType asked room
  have kinds := leaf.kind_unsignZeros
  have read := Leaf.ofLiteral_text typed
  change context.slot? = some (.leaf leaf.kind) at asked
  rw [← kinds] at asked read
  have oneName : session.ids.drawn + 1 ≤ limit := by
    simp only [size] at room
    omega
  obtain ⟨root, filled, changed, leafRead, reaches, grownReady⟩ :=
    ready.typeLeaf whole asked read oneName
  refine ⟨_, filled, reaches, grownReady, changed, leafRead, ?_⟩
  simp [Session.grown, size]

/-- An alternative is filled in by its claim and labelled then. -/
theorem fillable_electable
    {label : String}
    {claim : Claim}
    (fillable : (Part.claim claim).Fillable catalogs) :
    (Part.electable (.mk label claim)).Fillable catalogs := by
  intro session rootId limit context node ready whole sameType electable room
  obtain ⟨middle, filled, reaches, middleReady, middleWhole, read, drawn⟩ :=
    fillable session rootId limit context node ready whole sameType trivial room
  obtain ⟨later, relabels, laterReady, laterWhole, sameIds⟩ :=
    middleReady.label middleWhole electable label
  refine ⟨later, _, reaches.trans relabels, laterReady, laterWhole,
    Tree.readsAs_withText read label, ?_⟩
  rw [sameIds]
  exact drawn

theorem length_le_sum_size (parts : List Part) :
    parts.length ≤ (parts.map size).sum := by
  induction parts with
  | nil => simp
  | cons part rest restHypothesis =>
      have positive := part.size_pos
      simp only [List.length_cons, List.map_cons, List.sum_cons]
      omega

/-- Operands are filled in from left to right, behind children that are there. -/
theorem fill_operands
    {session : Session}
    {rootId : NodeId}
    {limit : Nat}
    {context : Context}
    {id : NodeId}
    {tag : String}
    {type : NodeType}
    {text : Option String}
    {finished holes : List Tree}
    {parts : List Part}
    (fillable : ∀ part ∈ parts, part.Fillable catalogs)
    (ready : session.IsReady catalogs rootId limit)
    (whole : session.root = context.plug ⟨id, tag, type, finished ++ holes, text, none⟩)
    (typed : holes.map (·.type) = parts.map Part.type)
    (suited : ∀ placed ∈ parts.zipIdx finished.length, placed.1.SuitsAt type tag placed.2)
    (room : session.ids.drawn + 2 * (parts.map size).sum ≤ limit + parts.length) :
    ∃ later nodes,
      session.Reaches later ∧ later.IsReady catalogs rootId limit ∧
        later.root = context.plug ⟨id, tag, type, finished ++ nodes, text, none⟩ ∧
        List.Forall₂ Tree.StandsFor nodes parts ∧
        later.ids.drawn + parts.length ≤ session.ids.drawn + 2 * (parts.map size).sum := by
  induction parts generalizing session finished holes with
  | nil =>
      obtain rfl : holes = [] := by simpa using typed
      exact ⟨session, [], .refl session, ready, whole, .nil, by simp⟩
  | cons part rest restHypothesis =>
      obtain ⟨partFillable, restFillable⟩ := List.forall_mem_cons.1 fillable
      rw [List.zipIdx_cons, List.forall_mem_cons] at suited
      obtain ⟨partSuited, restSuited⟩ := suited
      rcases holes with _ | ⟨hole, otherHoles⟩
      · simp at typed
      rw [List.map_cons, List.map_cons, List.cons.injEq] at typed
      obtain ⟨holeTyped, restTyped⟩ := typed
      have enough := length_le_sum_size rest
      simp only [List.map_cons, List.sum_cons, List.length_cons] at room ⊢
      -- The node over the operands is the innermost frame around the next of them.
      let frame : Frame := ⟨id, tag, type, finished, otherHoles, text, none⟩
      have frameSuited : part.SuitsAt frame.type frame.tag frame.position := partSuited
      obtain ⟨middle, filled, reaches, middleReady, middleWhole, read, drawn⟩ :=
        partFillable session rootId limit (frame :: context) hole ready whole holeTyped
          frameSuited.suits (by omega)
      have regrouped : middle.root =
          context.plug ⟨id, tag, type, (finished ++ [filled]) ++ otherHoles, text, none⟩ := by
        rw [middleWhole, List.append_assoc]
        rfl
      have restSuitedBehind : ∀ placed ∈ rest.zipIdx (finished ++ [filled]).length,
          placed.1.SuitsAt type tag placed.2 := by
        rw [List.length_append]
        exact restSuited
      obtain ⟨later, nodes, continues, laterReady, laterWhole, restRead, restDrawn⟩ :=
        restHypothesis restFillable middleReady regrouped restTyped restSuitedBehind (by omega)
      refine ⟨later, filled :: nodes, reaches.trans continues, laterReady, ?_,
        .cons read restRead, by omega⟩
      rw [laterWhole, List.append_assoc]
      rfl

/-- A term is filled in by the template of its constructor and its operands. -/
theorem fillable_of_operands
    {part : Part}
    {catalog : Catalog}
    {tag : String}
    {operands : List Part}
    {templates : List Template}
    (standard : catalogs.IsStandard)
    (shown : catalogs.forType? part.type = some catalog)
    (offers : templates ⊆ catalog.templates)
    (layout : part.IsOver templates tag operands)
    (fillable : ∀ operand ∈ operands, operand.Fillable catalogs) :
    part.Fillable catalogs := by
  intro session rootId limit context node ready whole sameType _ room
  obtain ⟨template, present, opens⟩ := layout.offered
  obtain ⟨holes, yields, typed⟩ := opens.yields session.ids
  have counted := opens.counted session.ids
  rw [List.length_map] at counted
  have enough := length_le_sum_size operands
  rw [layout.sized] at room ⊢
  rw [← sameType] at shown
  obtain ⟨root, changed, reaches, grownReady⟩ :=
    ready.choose standard whole shown (offers present) counted (by omega)
  generalize keepText :
    ((template.run session.ids).1.text.isNone && context.isElectable) = keepsText at changed
  have opened : (session.grown (operands.length + 1) root).root = context.plug
      ⟨node.id, tag, part.type, [] ++ holes, if keepsText then node.text else none, none⟩ := by
    rw [Session.grown, changed, yields]
    rfl
  have bare (noClaim : part.type ≠ .claim) :
      (if keepsText then node.text else none) = none := by
    have valid : (context.plug node).Grammatical := whole ▸ ready.sound.grammatical
    have notElectable := Context.isElectable_eq_false valid (sameType ▸ noClaim)
    rw [← keepText, notElectable, Bool.and_false]
    rfl
  have drawn : (session.grown (operands.length + 1) root).ids.drawn =
      session.ids.drawn + (operands.length + 1) := rfl
  obtain ⟨later, nodes, continues, laterReady, laterWhole, read, laterDrawn⟩ :=
    fill_operands fillable grownReady opened typed layout.suited (by omega)
  refine ⟨later, _, reaches.trans continues, laterReady, laterWhole, ?_, by omega⟩
  exact layout.read _ _ _ bare read

/-- Every operand is smaller than what it is an operand of. -/
theorem IsOver.size_lt
    {part operand : Part}
    {templates : List Template}
    {tag : String}
    {operands : List Part}
    (layout : part.IsOver templates tag operands)
    (present : operand ∈ operands) :
    operand.size < part.size := by
  have bounded : operand.size ≤ (operands.map size).sum :=
    List.single_le_sum (by simp) _ (List.mem_map_of_mem present)
  rw [layout.sized]
  omega

/-- Every part of the class can be filled in. -/
theorem fillable
    {part : Part}
    (standard : catalogs.IsStandard)
    (made : part.IsMenuMade) :
    part.Fillable catalogs := by
  induction sized : part.size using Nat.strong_induction_on generalizing part with
  | _ size sizeHypothesis =>
      subst sized
      have operandsFillable
          {whole : Part}
          {templates : List Template}
          {tag : String}
          {operands : List Part}
          (layout : whole.IsOver templates tag operands)
          (bounded : whole.size ≤ part.size) :
          ∀ operand ∈ operands, operand.Fillable catalogs := by
        intro operand present
        have smaller := Nat.lt_of_lt_of_le (layout.size_lt present) bounded
        exact sizeHypothesis operand.size smaller (layout.made operand present) rfl
      have claimFillable
          {claim : Claim}
          (bounded : claim.size ≤ part.size)
          (claimMade : claim.IsMenuMade) : (Part.claim claim).Fillable catalogs := by
        have layout := Claim.isOver claimMade
        exact fillable_of_operands standard rfl standard.primitives_subset layout
          (operandsFillable layout bounded)
      cases part with
      | claim term => exact claimFillable (Nat.le_refl _) made
      | electable term =>
          cases term with
          | mk label claim => exact fillable_electable (claimFillable (Nat.le_refl _) made)
      | observation term =>
          have layout := Observation.isOver made
          exact fillable_of_operands standard rfl standard.formulas_subset layout
            (operandsFillable layout (Nat.le_refl _))
      | inequality term =>
          have layout := Inequality.isOver made
          exact fillable_of_operands standard rfl standard.conditions_subset layout
            (operandsFillable layout (Nat.le_refl _))
      | leaf content => exact fillable_leaf made

end Part

/-! ## Sessions that start blank -/

namespace Session

variable {catalogs : Catalogs}

/-- A blank session is ready if its first name has room. -/
theorem isReady_blank
    {limit : Nat}
    {ids : IdSource}
    (start : ids.drawn = 0)
    (distinct : ids.IsDistinctBelow limit) :
    (Session.blank catalogs ids).IsReady catalogs ids.peek limit where
  unlocked := rfl
  menus := rfl
  sound := (IsStart.blank catalogs ids).isSound
  distinct := distinct
  issued := by
    intro id present
    have isFirst : id ∈ (Tree.placeholder ids.peek .claim).ids := present
    rw [ids_placeholder, List.mem_singleton] at isFirst
    refine ⟨0, Nat.lt_of_lt_of_eq Nat.one_pos ?_, ?_⟩
    · change 1 = ids.drawn + 1
      rw [start]
    · rw [isFirst, IdSource.peek, start]
      rfl

/-- A claim of the class is submitted from a blank session after slots have been
filled in, with fewer than two names for each of its constructors and leaves and one for
the slot from the start, if so many names are distinct. -/
theorem exists_submit_blank
    {ids : IdSource}
    {claim : Claim}
    (standard : catalogs.IsStandard)
    (made : claim.IsMenuMade)
    (start : ids.drawn = 0)
    (distinct : ids.IsDistinctBelow (2 * claim.size)) :
    ∃ operations : List Operation,
      (∀ operation ∈ operations, operation.fills = true) ∧
        ((Session.blank catalogs ids).performAll operations).submit =
          .ok claim.unsignZeros ∧
        ((Session.blank catalogs ids).performAll operations).ids.drawn ≤ 2 * claim.size := by
  have partMade : (Part.claim claim).IsMenuMade := made
  have ready : (Session.blank catalogs ids).IsReady catalogs ids.peek (2 * claim.size) :=
    isReady_blank start distinct
  have drawn : (Session.blank catalogs ids).ids.drawn = 1 := by
    change ids.drawn + 1 = 1
    rw [start]
  obtain ⟨later, filled, ⟨operations, fills, rfl⟩, _, whole, read, laterDrawn⟩ :=
    Part.fillable standard partMade _ _ _ [] _ ready rfl rfl trivial
      (by rw [drawn, Part.size]; omega)
  refine ⟨operations, fills, ?_, ?_⟩
  · rw [submit, whole]
    exact read
  · rw [drawn, Part.size] at laterDrawn
    omega

/-- Whatever is submitted from a blank session is in the class, unless a subtree is put
into the tree from outside. -/
theorem isMenuMade_of_submit_blank
    {ids : IdSource}
    {operations : List Operation}
    {claim : Claim}
    (standard : catalogs.IsStandard)
    (noReplace : ∀ operation ∈ operations, ∀ id subtree, operation ≠ .replace id subtree)
    (submitted : ((Session.blank catalogs ids).performAll operations).submit = .ok claim) :
    claim.IsMenuMade := by
  have sound := (IsStart.blank catalogs ids).isSound
  have blankMade : (Session.blank catalogs ids).root.IsMenuMade :=
    Tree.isMenuMade_placeholder ids.peek .claim
  have standardBlank : (Session.blank catalogs ids).catalogs.IsStandard := standard
  have made := isMenuMade_performAll standardBlank sound blankMade noReplace
  exact Tree.isMenuMade_of_decodeClaim made submitted

/-- The claims that are submitted from a blank session without a replacement are those
of the class: nothing else is ever submitted, and every claim of the class is, up to
the sign of its zeros, once the slots have been filled in by choices, labels and typed
leaves. The counter of the names does not overflow on the way if there is room for two of
them for each constructor and leaf. -/
theorem menu_expressiveness
    {menuIds : IdSource}
    {catalogs : Catalogs}
    (built : (Catalogs.standard.run menuIds).1 = .ok catalogs)
    (ids : SequentialIds) :
    (∀ (operations : List Operation) (claim : Claim),
      (∀ operation ∈ operations, ∀ id subtree, operation ≠ .replace id subtree) ->
        ((Session.blank catalogs ids.source).performAll operations).submit = .ok claim ->
          claim.IsMenuMade) ∧
    (∀ claim : Claim,
      claim.IsMenuMade -> ids.next.toNat + 2 * claim.size < UInt64.size ->
        ∃ operations : List Operation,
          (∀ operation ∈ operations, operation.fills = true) ∧
            ((Session.blank catalogs ids.source).performAll operations).submit =
              .ok claim.unsignZeros ∧
            ((Session.blank catalogs ids.source).performAll operations).ids.overflowed = false ∧
            (claim.unsignZeros == claim) = true) := by
  have standard := Catalogs.isStandard_of_standard built
  refine ⟨fun operations claim noReplace submitted => ?_, fun claim made room => ?_⟩
  · exact isMenuMade_of_submit_blank standard noReplace submitted
  · obtain ⟨operations, fills, submitted, few⟩ :=
      exists_submit_blank standard made rfl (ids.isDistinctBelow_source _)
    refine ⟨operations, fills, submitted, ?_, claim.unsignZeros_beq⟩
    have standardBlank : (Session.blank catalogs ids.source).catalogs.IsStandard := standard
    obtain ⟨amount, _, behind⟩ := drawsAtMost_performAll standardBlank operations
    have first : (Session.blank catalogs ids.source).ids = ids.source.skip 1 := rfl
    rw [first, IdSource.skip_skip] at behind
    have drawn : (ids.source.skip (1 + amount)).drawn = 1 + amount := Nat.zero_add _
    rw [behind, drawn] at few
    have draws : IdSource.DrawsAtMost (2 * claim.size) ids.source
        ((Session.blank catalogs ids.source).performAll operations).ids :=
      ⟨1 + amount, few, behind⟩
    exact draws.overflowed_eq_false ((ids.overflowed_skip_source_eq_false_iff _).2 room)

/-- An alternative that may be elected from a date on, with menus that are numbered apart
from the tree. -/
theorem menu_expressiveness_alternative :
    let menuIds : IdSource := { nameAt := fun draws => "m" ++ String.ofList (Digits.write draws) }
    let ids : SequentialIds := { stem := "n" }
    let claim : Claim :=
      .anytime (.timeGte ⟨2025, 1, 31, by decide, by decide, by decide⟩)
        (.mk "Take" (.scale (.neg (.observe "spot")) (.one { id := "EUR" })))
    ∃ catalogs operations,
      (Catalogs.standard.run menuIds).1 = .ok catalogs ∧
        ((Session.blank catalogs ids.source).performAll operations).submit = .ok claim ∧
        ((Session.blank catalogs ids.source).performAll operations).ids.overflowed =
          false := by
  intro menuIds ids claim
  have injective : Function.Injective menuIds.nameAt := by
    intro left right same
    have chars := congrArg String.toList same
    have sameDigits : Digits.write left = Digits.write right := by
      simpa [menuIds] using chars
    rw [← Digits.value_write left, sameDigits, Digits.value_write]
  have built := Catalogs.standard_eq_ok injective
  have keyTrimmed : Text.IsTrimmed "spot" := ⟨by decide, by decide⟩
  have assetTrimmed : Text.IsTrimmed "EUR" := ⟨by decide, by decide⟩
  have made : claim.IsMenuMade := ⟨trivial, keyTrimmed, rfl, assetTrimmed⟩
  obtain ⟨operations, _, submitted, lasts, _⟩ :=
    (menu_expressiveness built ids).2 claim made (by decide)
  exact ⟨_, operations, built, submitted, lasts⟩

end Session
end ContingentClaims
