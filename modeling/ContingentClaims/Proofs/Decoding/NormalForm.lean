import ContingentClaims.Proofs.Decoding.Drawing
import ContingentClaims.Proofs.Tree.NormalForm

/-!
# Normal forms and written trees

The normal form of a tree that is read draws what is read (`draws_normalAs`), and what
draws a part is its own normal form (`normalAs_of_draws`). So the writer makes, up to
identifiers, exactly the readable trees that are their own normal forms, and writing what
was read brings a tree into normal form.
-/

namespace ContingentClaims
namespace Tree

/-! ## Sums and negations -/

section Sums

variable {node : Tree}

/-- The drawing of a negation has the drawing of what is negated below it. -/
theorem negated?_of_draws_neg
    {operand : Observation}
    (draws : node.Draws (.observation (.neg operand))) :
    ∃ child, node.negated? = some child ∧ child.Draws (.observation operand) := by
  cases draws with
  | node carries operands =>
      rcases operands with _ | ⟨child, _ | _⟩
      exact ⟨_, rfl, child⟩

/-- The drawing of any other observation is no negation. -/
theorem negated?_of_draws
    {term : Observation}
    (draws : node.Draws (.observation term))
    (plain : ∀ operand, term ≠ .neg operand) :
    node.negated? = none := by
  have tagged : node.tag ≠ ObservationTag.neg.name := by
    rw [((draws_iff node _).1 draws).1]
    cases term with
    | neg operand => exact absurd rfl (plain operand)
    | _ => simp [Part.tag, Observation.tag, ObservationTag.name]
  unfold negated?
  split
  · exact if_neg tagged
  · rfl

/-- A node that is neither a sum nor a difference does not collapse. -/
theorem collapsed_of_tag
    (noDifference : node.tag ≠ ObservationTag.sub.name)
    (noSum : node.tag ≠ ObservationTag.add.name) :
    node.collapsed = node := by
  unfold collapsed
  split
  · rw [if_neg noDifference, if_neg (fun sum => noSum sum.1)]
  · rfl

end Sums

/-! ## Normal forms draw what is read -/

section Reading

variable {node : Tree}

/-- The normal forms of the children draw the operands as which the children are read. -/
theorem draws_normalsFrom
    {type : NodeType}
    {tag : String}
    {children : List Tree}
    {operands : List Part}
    {start : Nat}
    (denote : List.Forall₂ Denotes children operands)
    (labels : ∀ position operand, operands[position]? = some operand ->
      takesLabel type tag (start + position) = operand.isElectable)
    (childrenDraw : ∀ child ∈ children, ∀ part, child.Denotes part ->
      (child.normalAs part.isElectable).Draws part) :
    List.Forall₂ Draws (normalsFrom type tag start children) operands := by
  induction denote generalizing start with
  | nil => exact .nil
  | @cons child operand children operands denotes rest restHypothesis =>
      obtain ⟨first, others⟩ := List.forall_mem_cons.1 childrenDraw
      refine .cons ?_ (restHypothesis (fun position later here => ?_) others)
      · have label := labels 0 operand rfl
        rw [Nat.add_zero] at label
        rw [label]
        exact first operand denotes
      · rw [Nat.add_assoc, Nat.add_comm 1]
        exact labels (position + 1) later here

/-- A node that does not collapse draws a part if it is read over the operands that are
drawn, and its text and its leaf are those of the part. -/
theorem draws_normalAs_of_operands
    {part : Part}
    (tagged : node.tag = part.tag)
    (typed : node.type = part.type)
    (carries : node.value = part.value)
    (texted : node.normalText part.isElectable = part.text)
    (still : ∀ children text value,
      collapsed ⟨node.id, node.tag, node.type, children, text, value⟩ =
        ⟨node.id, node.tag, node.type, children, text, value⟩)
    (denote : List.Forall₂ Denotes node.children part.drawn)
    (childrenDraw : ∀ child ∈ node.children, ∀ part, child.Denotes part ->
      (child.normalAs part.isElectable).Draws part) :
    (node.normalAs part.isElectable).Draws part := by
  rw [normalAs_eq, still, draws_iff]
  refine ⟨tagged, typed, texted, ?_, ?_⟩
  · rw [carries]
    exact value_beq_self part.value
  · rw [tagged, typed]
    refine draws_normalsFrom denote (fun position operand here => ?_) childrenDraw
    rw [Nat.zero_add]
    exact Part.takesLabel_of_drawn here

/-- A marked sum over drawings of the operands draws their difference. -/
theorem draws_sub
    {leftNode rightNode : Tree}
    {left right : Observation}
    (leftDraws : leftNode.Draws (.observation left))
    (rightDraws : rightNode.Draws (.observation right))
    (id : NodeId) :
    Draws ⟨id, ObservationTag.add.name, .observation, [leftNode, rightNode],
      some differenceMark, none⟩ (.observation (.sub left right)) :=
  (draws_iff _ _).2 ⟨rfl, rfl, rfl, rfl, .cons leftDraws (.cons rightDraws .nil)⟩

/-- A sum without a mark collapses to a drawing of the sum, over drawings of the operands. -/
theorem draws_collapsed_add
    {leftNode rightNode : Tree}
    {left right : Observation}
    (leftDraws : leftNode.Draws (.observation left))
    (rightDraws : rightNode.Draws (.observation right))
    (id : NodeId) :
    (collapsed ⟨id, ObservationTag.add.name, .observation, [leftNode, rightNode], none,
      none⟩).Draws (.observation (.add left right)) := by
  have noDifference : ObservationTag.add.name ≠ ObservationTag.sub.name := by decide
  have unmarked : (none : Option String) ≠ some differenceMark := nofun
  rw [collapsed, if_neg noDifference, if_pos ⟨rfl, unmarked⟩]
  by_cases negation : ∃ operand, right = .neg operand
  · obtain ⟨operand, rfl⟩ := negation
    obtain ⟨child, negated, childDraws⟩ := negated?_of_draws_neg rightDraws
    simp only [negated]
    exact draws_sub leftDraws childDraws id
  · have plain : ∀ operand, right ≠ .neg operand := by simpa using negation
    simp only [negated?_of_draws rightDraws plain]
    rw [draws_iff, Part.drawn_add plain, Part.text_add plain]
    exact ⟨rfl, rfl, rfl, rfl, .cons leftDraws (.cons rightDraws .nil)⟩

/-- A node that is read as an observation other than a sum, over the operands of the
latter, keeps its tag and has no text in normal form. -/
theorem draws_normalAs_of_tag
    {term : Observation}
    (tagged : node.tag = term.tag.name)
    (typed : node.type = .observation)
    (bare : node.value = none)
    (noSum : term.tag ≠ .add)
    (denote : List.Forall₂ Denotes node.children (Part.observation term).drawn)
    (childrenDraw : ∀ child ∈ node.children, ∀ part, child.Denotes part ->
      (child.normalAs part.isElectable).Draws part) :
    (node.normalAs false).Draws (.observation term) := by
  have noSumTag : node.tag ≠ ObservationTag.add.name := by
    rw [tagged]
    cases term with
    | add left right => exact absurd rfl noSum
    | _ => simp [Observation.tag, ObservationTag.name]
  have noDifferenceTag : node.tag ≠ ObservationTag.sub.name := by
    rw [tagged]
    cases term <;> simp [Observation.tag, ObservationTag.name]
  have text : (Part.observation term).text = none := by
    cases term with
    | add left right => exact absurd rfl noSum
    | _ => rfl
  refine draws_normalAs_of_operands tagged typed bare ?_ ?_ denote childrenDraw
  · simp [normalText, Part.isElectable, noSumTag, bare, text]
  · intro children text value
    exact collapsed_of_tag noDifferenceTag noSumTag

/-- The normal form of a node that is read as an observation draws it, if those of its
children do. -/
theorem draws_normalAs_observation
    {term : Observation}
    (nodeRead : node.decodeObservation = .ok term)
    (childrenDraw : ∀ child ∈ node.children, ∀ part, child.Denotes part ->
      (child.normalAs part.isElectable).Draws part) :
    (node.normalAs false).Draws (.observation term) := by
  cases (decodeObservation_eq_ok_iff node term).1 nodeRead with
  | const read =>
      exact draws_normalAs_of_tag rfl rfl rfl nofun
        (.cons ((decodeDecimal_eq_ok_iff _ _).1 read) .nil) childrenDraw
  | observe read =>
      exact draws_normalAs_of_tag rfl rfl rfl nofun
        (.cons ((decodeKey_eq_ok_iff _ _).1 read) .nil) childrenDraw
  | observeAt keyRead dateRead =>
      exact draws_normalAs_of_tag rfl rfl rfl nofun
        (.cons ((decodeKey_eq_ok_iff _ _).1 keyRead)
          (.cons ((decodeDate_eq_ok_iff _ _).1 dateRead) .nil)) childrenDraw
  | neg read => exact draws_normalAs_of_tag rfl rfl rfl nofun (.cons read .nil) childrenDraw
  | mul leftRead rightRead =>
      exact draws_normalAs_of_tag rfl rfl rfl nofun (.cons leftRead (.cons rightRead .nil))
        childrenDraw
  | div leftRead rightRead =>
      exact draws_normalAs_of_tag rfl rfl rfl nofun (.cons leftRead (.cons rightRead .nil))
        childrenDraw
  | @sub id text leftNode rightNode left right leftRead rightRead =>
      have leftDraws := childrenDraw leftNode (by simp) (.observation left) leftRead
      have rightDraws := childrenDraw rightNode (by simp) (.observation right) rightRead
      exact draws_sub leftDraws rightDraws id
  | @add id text leftNode rightNode left right leftRead rightRead =>
      have leftDraws := childrenDraw leftNode (by simp) (.observation left) leftRead
      have rightDraws := childrenDraw rightNode (by simp) (.observation right) rightRead
      split
      next marked =>
        subst marked
        exact draws_sub leftDraws rightDraws id
      next unmarked =>
        have cleared : normalText false ⟨id, ObservationTag.add.name, .observation,
            [leftNode, rightNode], text, none⟩ = none := by
          have noMark : text ≠ some "-" := unmarked
          simp [normalText, noMark]
        rw [normalAs_eq, cleared]
        exact draws_collapsed_add leftDraws rightDraws id

/-- The normal form of a node that is read draws what is read. -/
theorem draws_normalAs
    {part : Part}
    (denotes : node.Denotes part) :
    (node.normalAs part.isElectable).Draws part := by
  induction node using childInduction generalizing part with
  | step node childHypothesis =>
      have childrenDraw : ∀ child ∈ node.children, ∀ part, child.Denotes part ->
          (child.normalAs part.isElectable).Draws part :=
        fun child isChild part denotes => childHypothesis child isChild denotes
      cases part with
      | claim term =>
          obtain ⟨tagged, bare, denote⟩ := operands_of_decodeClaim denotes
          have typed := type_of_decodeClaim denotes
          refine draws_normalAs_of_operands tagged typed bare ?_ ?_ denote childrenDraw
          · simp [normalText, Part.isElectable, typed, bare, Part.text]
          · exact fun _ _ _ => collapsed_of_type (by simp [typed])
      | electable alternative =>
          obtain ⟨labelled, read⟩ := denotes
          obtain ⟨tagged, bare, denote⟩ := operands_of_decodeClaim read
          have typed := type_of_decodeClaim read
          refine draws_normalAs_of_operands tagged typed bare ?_ ?_ denote childrenDraw
          · have label : node.text.getD "" = alternative.label := labelled
            simp [normalText, Part.isElectable, label, Part.text]
          · exact fun _ _ _ => collapsed_of_type (by simp [typed])
      | observation term => exact draws_normalAs_observation denotes childrenDraw
      | inequality term =>
          obtain ⟨tagged, bare, denote⟩ := operands_of_decodeInequality denotes
          have typed := type_of_decodeInequality denotes
          refine draws_normalAs_of_operands tagged typed bare ?_ ?_ denote childrenDraw
          · simp [normalText, Part.isElectable, typed, bare, Part.text]
          · exact fun _ _ _ => collapsed_of_type (by simp [typed])
      | leaf content =>
          obtain ⟨typed, tagged, childless, carries⟩ := (leaf_eq_ok_iff node content).1 denotes
          have denote : List.Forall₂ Denotes node.children [] := childless ▸ .nil
          refine draws_normalAs_of_operands tagged typed carries ?_ ?_ denote childrenDraw
          · exact normalText_of_value typed carries
          · exact fun _ _ _ => collapsed_of_type (by simp [typed])

end Reading

/-! ## Drawings are in normal form -/

section Drawings

theorem normalsFrom_of_draws
    {type : NodeType}
    {tag : String}
    {children : List Tree}
    {operands : List Part}
    {start : Nat}
    (draw : List.Forall₂ Draws children operands)
    (labels : ∀ position operand, operands[position]? = some operand ->
      takesLabel type tag (start + position) = operand.isElectable)
    (childrenStay : ∀ child ∈ children, ∀ part, child.Draws part ->
      child.normalAs part.isElectable = child) :
    normalsFrom type tag start children = children := by
  induction draw generalizing start with
  | nil => rfl
  | @cons child operand children operands draws rest restHypothesis =>
      obtain ⟨first, others⟩ := List.forall_mem_cons.1 childrenStay
      have label := labels 0 operand rfl
      rw [Nat.add_zero] at label
      rw [normalsFrom, label, first operand draws]
      congr 1
      refine restHypothesis (fun position later here => ?_) others
      rw [Nat.add_assoc, Nat.add_comm 1]
      exact labels (position + 1) later here

/-- Leaves that are equal by value have one caption. -/
theorem caption_of_sameValue
    {left right : Leaf}
    (same : (left == right) = true) :
    right.caption = left.caption := by
  change left.sameValue right = true at same
  cases left <;> cases right <;> simp_all [Leaf.sameValue, Leaf.caption]

/-- A text on the node of an observation is the mark of a difference. -/
theorem text_observation (term : Observation) :
    (Part.observation term).text = none ∨
      ∃ left right, term = .sub left right ∧
        (Part.observation term).text = some differenceMark := by
  cases term with
  | add left right =>
      cases right with
      | neg operand => exact Or.inr ⟨left, operand, rfl, rfl⟩
      | _ => exact Or.inl rfl
  | _ => exact Or.inl rfl

/-- All of the text on the drawing of a part is kept. -/
theorem normalText_of_draws
    {tree : Tree}
    {part : Part}
    (draws : tree.Draws part) :
    tree.normalText part.isElectable = part.text := by
  obtain ⟨tagged, typed, texted, carries, _⟩ := (draws_iff tree part).1 draws
  cases part with
  | claim term =>
      have bare := eq_none_of_carries carries
      simp [normalText, Part.isElectable, typed, bare, Part.text, Part.type]
  | electable alternative =>
      simp [normalText, Part.isElectable, texted, Part.text]
  | observation term =>
      have bare := eq_none_of_carries carries
      rcases text_observation term with unmarked | ⟨left, right, rfl, marked⟩
      · simp [normalText, Part.isElectable, texted, unmarked, bare]
      · have sum : tree.tag = ObservationTag.add.name := tagged
        have operator : tree.type = .observation := typed
        simp [normalText, Part.isElectable, texted, marked, sum, operator, differenceMark]
  | inequality term =>
      have bare := eq_none_of_carries carries
      simp [normalText, Part.isElectable, typed, bare, Part.text, Part.type]
  | leaf content =>
      cases carried : tree.value with
      | none => simp [carried, Part.value] at carries
      | some found =>
          rw [carried] at carries
          exact (normalText_of_value typed carried).trans (caption_of_sameValue carries)

/-- The drawing of a sum does not collapse: it carries a mark, or the second child is no
negation. -/
theorem collapsed_of_draws_add
    {tree : Tree}
    {left right : Observation}
    (draws : tree.Draws (.observation (.add left right))) :
    tree.collapsed = tree := by
  obtain ⟨tagged, typed, texted, carries, operands⟩ := (draws_iff tree _).1 draws
  rcases tree with ⟨id, tag, type, children, text, value⟩
  subst tagged typed texted
  by_cases negation : ∃ operand, right = .neg operand
  · obtain ⟨operand, rfl⟩ := negation
    rcases operands with _ | ⟨_, _ | ⟨_, _ | _⟩⟩
    rfl
  · have plain : ∀ operand, right ≠ .neg operand := by simpa using negation
    rw [Part.drawn_add plain] at operands
    rcases operands with _ | ⟨leftDraws, _ | ⟨rightDraws, _ | _⟩⟩
    have noDifference : ObservationTag.add.name ≠ ObservationTag.sub.name := by decide
    simp [Part.tag, Part.type, Observation.tag, collapsed, noDifference,
      negated?_of_draws rightDraws plain]

/-- The drawing of a part does not collapse. -/
theorem collapsed_of_draws
    {tree : Tree}
    {part : Part}
    (draws : tree.Draws part) :
    tree.collapsed = tree := by
  obtain ⟨tagged, typed, _⟩ := (draws_iff tree part).1 draws
  cases part with
  | observation term =>
      cases term with
      | add left right => exact collapsed_of_draws_add draws
      | _ =>
          refine collapsed_of_tag ?_ ?_ <;>
            simp [tagged, Part.tag, Observation.tag, ObservationTag.name]
  | _ => exact collapsed_of_type (by simp [typed, Part.type])

/-- What draws a part is its own normal form. -/
theorem normalAs_of_draws
    {tree : Tree}
    {part : Part}
    (draws : tree.Draws part) :
    tree.normalAs part.isElectable = tree := by
  induction tree using childInduction generalizing part with
  | step tree childHypothesis =>
      obtain ⟨tagged, typed, texted, carries, operands⟩ := (draws_iff tree part).1 draws
      have children : normalsFrom tree.type tree.tag 0 tree.children = tree.children := by
        refine normalsFrom_of_draws operands (fun position operand here => ?_)
          fun child isChild part draws => childHypothesis child isChild draws
        rw [tagged, typed, Nat.zero_add]
        exact Part.takesLabel_of_drawn here
      rw [normalAs_eq, children, normalText_of_draws draws, ← texted]
      cases tree
      exact collapsed_of_draws draws

end Drawings

/-! ## The image of the writer -/

/-- How reading and writing of some kind of terms relate to normal forms. -/
structure HasNormalForm
    {Term : Type}
    (decode : Tree -> Except TreeError Term)
    (encode : Term -> Fresh Tree) : Prop where
  /-- What was read is written in normal form. -/
  sameShape_normal :
    ∀ node term, decode node = .ok term ->
      ∀ source, ((encode term).run source).1.sameShape node.normal = true
  /-- What was read is written as it was exactly in normal form. -/
  sameShape_iff_normal :
    ∀ node term, decode node = .ok term ->
      ∀ source, ((encode term).run source).1.sameShape node = true ↔ node.normal = node
  /-- Up to identifiers, what is written are the readable trees in normal form. -/
  image_iff :
    ∀ node, (∃ term source, ((encode term).run source).1.sameShape node = true) ↔
      (∃ term, decode node = .ok term) ∧ node.normal = node

/-- Terms of one sort of parts. -/
theorem hasNormalForm_of_part
    {Term : Type}
    {decode : Tree -> Except TreeError Term}
    {encode : Term -> Fresh Tree}
    {part : Term -> Part}
    (denotes_iff : ∀ node term, node.Denotes (part term) ↔ decode node = .ok term)
    (encodes : ∀ term source, ((encode term).run source).1.Encodes (part term))
    (unlabelled : ∀ term, (part term).isElectable = false)
    (closed : ∀ other term, Part.SameSort other (part term) -> ∃ same, other = part same) :
    HasNormalForm decode encode := by
  have drawn (node : Tree) (term : Term) (source : IdSource) :
      ((encode term).run source).1.sameShape node = true ↔ node.Draws (part term) :=
    sameShape_iff_draws (encodes term source)
  have normalDraws {node : Tree} {term : Term} (read : decode node = .ok term) :
      node.normal.Draws (part term) := by
    rw [normal, ← unlabelled term]
    exact draws_normalAs ((denotes_iff node term).2 read)
  have normalStays {node : Tree} {term : Term} (draws : node.Draws (part term)) :
      node.normal = node := by
    rw [normal, ← unlabelled term]
    exact normalAs_of_draws draws
  refine ⟨fun node term read source => ?_, fun node term read source => ?_, fun node => ?_⟩
  · exact (drawn node.normal term source).2 (normalDraws read)
  · rw [drawn]
    constructor
    · exact normalStays
    · intro stays
      rw [← stays]
      exact normalDraws read
  · constructor
    · rintro ⟨term, source, same⟩
      have draws := (drawn node term source).1 same
      obtain ⟨read, sameSort, denotes⟩ := draws.exists_denotes
      obtain ⟨found, rfl⟩ := closed read term sameSort
      exact ⟨⟨found, (denotes_iff node found).1 denotes⟩, normalStays draws⟩
    · rintro ⟨⟨term, read⟩, stays⟩
      refine ⟨term, { nameAt := fun _ => "" }, (drawn node term _).2 ?_⟩
      rw [← stays]
      exact normalDraws read

/-- Writing what was read brings a tree into normal form, and the writer makes, up to
identifiers, exactly the readable trees in normal form: for claims, observations and
inequalities alike. -/
theorem encode_decode :
    HasNormalForm decodeClaim Claim.encode ∧
    HasNormalForm decodeObservation Observation.encode ∧
    HasNormalForm decodeInequality Inequality.encode := by
  refine ⟨?_, ?_, ?_⟩
  · exact hasNormalForm_of_part (fun _ _ => Iff.rfl) (fun _ source => ⟨source, rfl⟩)
      (fun _ => rfl) fun _ _ same => same.exists_claim
  · exact hasNormalForm_of_part (fun _ _ => Iff.rfl) (fun _ source => ⟨source, rfl⟩)
      (fun _ => rfl) fun _ _ same => same.exists_observation
  · exact hasNormalForm_of_part (fun _ _ => Iff.rfl) (fun _ source => ⟨source, rfl⟩)
      (fun _ => rfl) fun _ _ same => same.exists_inequality

end Tree
end ContingentClaims
