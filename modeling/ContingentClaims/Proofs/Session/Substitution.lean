import ContingentClaims.Proofs.Decoding.Denotation
import ContingentClaims.Proofs.Session.Splice

/-!
# Editing is substitution

Every node of the tree that is written for a term stands for one occurrence of a part in
that term, at the path of positions that leads to the node. To replace the node by the
tree of another part and read the whole tree is to substitute this part for the
occurrence (`submit_replace`). The proof follows the ancestors of the node from the
inside to the outside: each of them is read as the part that is drawn anew over the
changed operand.
-/

namespace ContingentClaims

/-! ## Positions in a tree -/

namespace Tree

/-- The node at the end of a path of positions among children. -/
def at? : List Nat -> Tree -> Option Tree
  | [], tree => some tree
  | position :: path, tree => do
      let child <- tree.children[position]?
      child.at? path

theorem at?_append
    (outer inner : List Nat)
    (tree : Tree) :
    tree.at? (outer ++ inner) = (tree.at? outer).bind (·.at? inner) := by
  induction outer generalizing tree with
  | nil => rfl
  | cons position outer outerHypothesis =>
      cases found : tree.children[position]? with
      | none => simp [at?, found]
      | some child => simp [at?, found, outerHypothesis]

end Tree

namespace Context

/-- The positions on the way from the root to the missing node. -/
def positions : Context -> List Nat
  | [] => []
  | frame :: outer => positions outer ++ [frame.position]

theorem at?_plug
    (context : Context)
    (tree : Tree) :
    (context.plug tree).at? context.positions = some tree := by
  induction context generalizing tree with
  | nil => rfl
  | cons frame outer outerHypothesis =>
      rw [plug_cons, positions, Tree.at?_append, outerHypothesis]
      simp [Tree.at?, Frame.position]

end Context

/-! ## Occurrences in their contexts -/

/-- The tree of a part with one child in view: this child is the tree of an operand, and
the node is that of the part whatever stands in the place of the child. -/
theorem Frame.exists_operand_of_encodes
    {frame : Frame}
    {child : Tree}
    {part : Part}
    (encodes : (frame.fill child).Encodes part) :
    ∃ before operand behind,
      part.drawn = before ++ operand :: behind ∧
        List.Forall₂ Tree.Encodes frame.before before ∧ child.Encodes operand ∧
        List.Forall₂ Tree.Encodes frame.behind behind ∧
        ∀ other, frame.fill other =
          part.node frame.id (frame.before ++ other :: frame.behind) := by
  obtain ⟨children, written, operands⟩ := encodes.exists_node
  obtain ⟨_, sameTag, sameType, rfl, sameText, sameValue⟩ := Tree.mk.inj written
  have front := List.forall₂_take frame.before.length operands
  have back := List.forall₂_drop frame.before.length operands
  rw [List.take_left] at front
  rw [List.drop_left] at back
  obtain ⟨operand, behind, encodesOperand, encodeBehind, split⟩ :=
    List.forall₂_cons_left_iff.1 back
  refine ⟨_, operand, behind, ?_, front, encodesOperand, encodeBehind, fun other => ?_⟩
  · rw [← split, List.take_append_drop]
  · rw [fill, sameTag, sameType, sameText, sameValue]
    rfl

namespace Context

/-- The place of the missing node is that of a part in the whole. -/
structure LeadsTo
    (context : Context)
    (whole part : Part) : Prop where
  /-- The part is found where the node is missing. -/
  found : whole.at? context.positions = some part
  labelled : context.isElectable = part.isElectable
  /-- With another node in its place, the tree is read as the whole with the part
  changed. -/
  changes :
    ∀ (change : Part -> Option Part) (changed : Part) (other : Tree),
      change part = some changed -> changed.SameSort part -> other.Denotes changed ->
        ∃ result, whole.modifyAt? change context.positions = some result ∧
          result.SameSort whole ∧ (context.plug other).Denotes result

theorem leadsTo_nil
    {whole : Part}
    (unlabelled : whole.isElectable = false) :
    LeadsTo [] whole whole where
  found := rfl
  labelled := unlabelled.symm
  changes _ changed _ made same denotes := ⟨changed, made, same, denotes⟩

/-- The parent is read with other operands as the part that is drawn anew over them. -/
def Redraws
    (frame : Frame)
    (parent : Part) : Prop :=
  ∀ (other : Tree) (operands : List Part),
    List.Forall₂ Part.SameSort operands parent.drawn ->
      List.Forall₂ Tree.Denotes (frame.fill other).children operands ->
        ∃ redrawn, parent.redraw? operands = some redrawn ∧ redrawn.SameSort parent ∧
          (frame.fill other).Denotes redrawn

/-- One place further inside is that of an operand of the parent. -/
theorem LeadsTo.child
    {frame : Frame}
    {outer : Context}
    {whole parent part : Part}
    {before behind : List Part}
    (leads : outer.LeadsTo whole parent)
    (sameTag : frame.tag = parent.tag)
    (sameType : frame.type = parent.type)
    (drawn : parent.drawn = before ++ part :: behind)
    (readBefore : List.Forall₂ Tree.Denotes frame.before before)
    (readBehind : List.Forall₂ Tree.Denotes frame.behind behind)
    (redraws : Redraws frame parent) :
    LeadsTo (frame :: outer) whole part := by
  have position : frame.position = before.length := readBefore.length_eq
  have here : parent.drawn[frame.position]? = some part := by simp [drawn, position]
  constructor
  · rw [positions, Part.at?_append, leads.found]
    simp [Part.at?, here]
  · rw [← Part.takesLabel_of_drawn here, ← sameTag, ← sameType]
    rfl
  · intro change changed other made same denotes
    have operandsSame : List.Forall₂ Part.SameSort (before ++ changed :: behind)
        parent.drawn := by
      rw [drawn]
      exact List.rel_append (List.forall₂_same.2 fun operand _ => .refl operand)
        (.cons same (List.forall₂_same.2 fun operand _ => .refl operand))
    have operandsRead : List.Forall₂ Tree.Denotes (frame.fill other).children
        (before ++ changed :: behind) :=
      List.rel_append readBefore (.cons denotes readBehind)
    obtain ⟨redrawn, drawnAnew, sameParent, parentDenotes⟩ :=
      redraws other _ operandsSame operandsRead
    have parentMade : parent.modifyAt? change [frame.position] = some redrawn := by
      rw [Part.modifyAt?, here]
      simpa [Part.modifyAt?, made, drawn, position] using drawnAnew
    obtain ⟨result, wholeMade, sameWhole, wholeDenotes⟩ :=
      leads.changes _ redrawn (frame.fill other) parentMade sameParent parentDenotes
    refine ⟨result, ?_, sameWhole, wholeDenotes⟩
    rw [positions, Part.modifyAt?_append]
    exact wholeMade

/-- A node in its context stands for a part in the whole. -/
structure Marks
    (context : Context)
    (node : Tree)
    (whole part : Part) : Prop where
  /-- The part is found where the node is. -/
  found : whole.at? context.positions = some part
  encodes : node.Encodes part
  labelled : context.isElectable = part.isElectable
  /-- With another node in its place, the tree is read as the whole with the part
  changed. -/
  changes :
    ∀ (change : Part -> Option Part) (changed : Part) (other : Tree),
      change part = some changed -> changed.SameSort part -> other.Denotes changed ->
        ∃ result, whole.modifyAt? change context.positions = some result ∧
          result.SameSort whole ∧ (context.plug other).Denotes result

/-- A node stands for a part if it is the tree of the part in the part's place. -/
theorem marks_iff
    {context : Context}
    {node : Tree}
    {whole part : Part} :
    Marks context node whole part ↔ LeadsTo context whole part ∧ node.Encodes part := by
  constructor
  · intro marks
    exact ⟨⟨marks.found, marks.labelled, marks.changes⟩, marks.encodes⟩
  · rintro ⟨leads, encodes⟩
    exact ⟨leads.found, encodes, leads.labelled, leads.changes⟩

/-- What a child stands for, if its parent stands for a part. -/
theorem Marks.child
    {frame : Frame}
    {outer : Context}
    {node : Tree}
    {whole parent : Part}
    (marks : Marks outer (frame.fill node) whole parent) :
    ∃ part, Marks (frame :: outer) node whole part := by
  obtain ⟨leads, encodes⟩ := marks_iff.1 marks
  obtain ⟨before, part, behind, drawn, encodeBefore, encodesPart, encodeBehind, filled⟩ :=
    Frame.exists_operand_of_encodes encodes
  have redraws : Redraws frame parent := by
    intro other operands same read
    rw [filled other] at read ⊢
    exact Tree.denotes_redraw same read frame.id
  exact ⟨part, marks_iff.2 ⟨leads.child (congrArg Tree.tag (filled node))
    (congrArg Tree.type (filled node)) drawn (Tree.denotes_of_encodes encodeBefore)
    (Tree.denotes_of_encodes encodeBehind) redraws, encodesPart⟩⟩

/-- Every node in the tree of a part stands for a part in it. -/
theorem exists_marks
    {context : Context}
    {node : Tree}
    {whole : Part}
    (encodes : (context.plug node).Encodes whole)
    (unlabelled : whole.isElectable = false) :
    ∃ part, context.Marks node whole part := by
  induction context generalizing node with
  | nil => exact ⟨whole, marks_iff.2 ⟨leadsTo_nil unlabelled, encodes⟩⟩
  | cons frame outer outerHypothesis =>
      obtain ⟨parent, marks⟩ := outerHypothesis encodes
      exact marks.child

end Context

/-! ## Replacements -/

section Exchange

variable {part content changed : Part} {node subtree : Tree}

/-- The tree of another part, where it takes over a node, is the node of the part with
which the old one is exchanged. -/
theorem Tree.denotes_takeOver
    (exchanged : part.exchange? content = some changed)
    (encodes : node.Encodes part)
    (written : subtree.Encodes content) :
    (subtree.takeOver (subtree.text.isNone && part.isElectable) node).Denotes changed := by
  obtain ⟨children, split, operands⟩ := written.exists_node
  have made : subtree.takeOver (subtree.text.isNone && part.isElectable) node =
      changed.node node.id children ∧ changed.drawn = content.drawn := by
    rw [split, takeOver, encodes.text]
    cases part <;> cases content <;> simp only [Part.exchange?, reduceCtorEq] at exchanged
    case leaf.leaf old new =>
      split at exchanged
      next kind =>
        obtain rfl := Option.some.inj exchanged
        simp [Part.node, Part.isElectable]
      next different => simp at exchanged
    all_goals
      obtain rfl := Option.some.inj exchanged
      simp [Part.node, Part.isElectable, Part.text, Part.tag, Part.type, Part.value, Part.drawn]
  rw [made.1]
  apply denotes_node
  rw [made.2]
  exact denotes_of_encodes operands

theorem Part.type_of_exchange?
    (exchanged : part.exchange? content = some changed) :
    content.type = part.type := by
  cases part <;> cases content <;> simp_all [exchange?, type]

end Exchange

/-- The slot that holds the node of a leaf is the one of its kind. -/
theorem Slot.eq_leaf_of_accepts
    {slot : Slot}
    {node : Tree}
    {content : Leaf}
    (accepted : slot.accepts node = true)
    (read : node.leaf = .ok content) :
    slot = .leaf content.kind := by
  obtain ⟨typed, tagged, _, carries⟩ := (Tree.leaf_eq_ok_iff node content).1 read
  have sameType := type_of_accepts accepted
  rw [typed] at sameType
  cases slot with
  | leaf kind =>
      have filled : node.isPlaceholder = false := by
        simp [Tree.isPlaceholder, typed, carries]
      have sameTag := tag_of_accepts_leaf accepted filled
      rw [tagged, Leaf.tag, LeafKind.tag_inj] at sameTag
      rw [sameTag]
  | claim | observation | inequality => simp [type] at sameType

namespace Context

/-- The node of a leaf suits the place of every node of a leaf of its kind. -/
theorem suits_of_leaf
    {context : Context}
    {node subtree : Tree}
    {old new : Leaf}
    (valid : (context.plug node).Grammatical)
    (nodeRead : node.leaf = .ok old)
    (subtreeRead : subtree.leaf = .ok new)
    (kind : new.kind = old.kind) :
    context.suits node subtree = true := by
  cases context with
  | nil =>
      have nodeType := ((Tree.leaf_eq_ok_iff node old).1 nodeRead).1
      have subtreeType := ((Tree.leaf_eq_ok_iff subtree new).1 subtreeRead).1
      simp [suits, slot?, nodeType, subtreeType]
  | cons frame outer =>
      obtain ⟨slot, found, accepted⟩ := exists_slot?_of_grammatical valid
      obtain rfl := Slot.eq_leaf_of_accepts accepted nodeRead
      rw [suits, found, ← kind]
      exact Tree.accepts_of_leaf subtreeRead

/-- The tree of a part suits the place of a node if it may be exchanged for the part that
the node stands for. -/
theorem suits_of_exchange?
    {context : Context}
    {node subtree : Tree}
    {part content changed : Part}
    (valid : (context.plug node).Grammatical)
    (exchanged : part.exchange? content = some changed)
    (encodes : node.Encodes part)
    (written : subtree.Encodes content) :
    context.suits node subtree = true := by
  have sameType : subtree.type = node.type := by
    rw [encodes.type, written.type, Part.type_of_exchange? exchanged]
  cases part with
  | leaf old =>
      cases content with
      | leaf new =>
          have kind : new.kind = old.kind := by
            by_contra different
            simp [Part.exchange?, different] at exchanged
          exact suits_of_leaf valid encodes.denotes written.denotes kind
      | _ => simp [Part.exchange?] at exchanged
  | _ => exact suits_of_type valid (by simp [encodes.type, Part.type]) sameType

/-- To splice the tree of another part into the tree of a part is to change the part that
the node stands for. -/
theorem Marks.splice
    {context : Context}
    {node subtree : Tree}
    {whole part content changed : Part}
    (marks : context.Marks node whole part)
    (encodes : (context.plug node).Encodes whole)
    (distinct : (context.plug node).ids.Nodup)
    (exchanged : part.exchange? content = some changed)
    (written : subtree.Encodes content)
    (below : subtree.idsBelow.Nodup)
    (fresh : ∀ id ∈ subtree.idsBelow, id ∉ (context.plug node).ids) :
    ∃ root result, (context.plug node).splice? node.id subtree = some root ∧
      whole.substitute? context.positions content = some result ∧
      result.SameSort whole ∧ root.Denotes result := by
  obtain ⟨result, made, same, denotes⟩ := marks.changes (·.exchange? content) changed _
    exchanged (Part.sameSort_of_exchange? exchanged)
    (Tree.denotes_takeOver exchanged marks.encodes written)
  refine ⟨_, result, ?_, made, same, denotes⟩
  rw [splice?_plug distinct]
  refine ⟨written.denotes.grammatical,
    suits_of_exchange? encodes.denotes.grammatical exchanged marks.encodes written,
    nodup_plug_takeOver distinct below fresh _, ?_⟩
  rw [marks.labelled]

end Context

/-! ## Sessions -/

namespace Session

/-- To replace a node in the tree of a session is to substitute at one occurrence in a
claim. -/
structure EditsOccurrence
    (session : Session)
    (claim : Claim)
    (node : Tree)
    (path : List Nat)
    (part : Part) : Prop where
  /-- The path leads to the node in the tree. -/
  located : session.root.at? path = some node
  /-- The same path leads to the part in the claim. -/
  found : (Part.claim claim).at? path = some part
  /-- The node is the tree of the part. -/
  encodes : node.Encodes part
  /-- With the tree of any part that may stand there the replacement succeeds, and what
  is submitted is the claim with that part substituted. -/
  substitutes :
    ∀ (content : Part) (subtree : Tree), (part.exchange? content).isSome ->
      subtree.Encodes content -> subtree.idsBelow.Nodup ->
      (∀ id ∈ subtree.idsBelow, id ∉ session.root.ids) ->
        ∃ changed, (Part.claim claim).substitute? path content = some (.claim changed) ∧
          (session.replace node.id subtree).2 = true ∧
          (session.replace node.id subtree).1.submit = .ok changed

/-- In a session that is started from a claim every node stands for one occurrence of a
part in the claim, and its replacement is a substitution at that occurrence. -/
theorem submit_replace
    {claim : Claim}
    {catalogs : Catalogs}
    {source : IdSource}
    {node : Tree}
    (distinct : (Session.ofClaim claim catalogs source).root.ids.Nodup)
    (present : node ∈ (Session.ofClaim claim catalogs source).root.walk) :
    ∃ path part,
      (Session.ofClaim claim catalogs source).EditsOccurrence claim node path part := by
  generalize started : Session.ofClaim claim catalogs source = session at distinct present ⊢
  have encodes : session.root.Encodes (.claim claim) := by
    rw [← started]
    exact ⟨source, rfl⟩
  rw [Tree.walk_eq_preorder] at present
  obtain ⟨context, split⟩ := Tree.exists_context_of_mem_preorder present
  rw [split] at encodes distinct
  obtain ⟨part, marks⟩ := Context.exists_marks encodes rfl
  refine ⟨context.positions, part, ?_, marks.found, marks.encodes, ?_⟩
  · rw [split]
    exact context.at?_plug node
  · intro content subtree admitted written below fresh
    obtain ⟨changed, exchanged⟩ := Option.isSome_iff_exists.1 admitted
    rw [split] at fresh
    obtain ⟨root, result, spliced, substituted, same, denotes⟩ :=
      marks.splice encodes distinct exchanged written below fresh
    obtain ⟨result, rfl⟩ := same.exists_claim
    refine ⟨result, substituted, ?_⟩
    rw [← split] at spliced
    simp only [replace, spliced]
    exact ⟨trivial, denotes⟩

/-- The subtrahend of a difference that scales a claim. -/
theorem submit_replace_subtrahend :
    let claim : Claim := .scale (.sub (.observe "spot") (.observe "strike")) .zero
    let source : IdSource := { nameAt := fun drawn => String.ofList (List.replicate drawn 'n') }
    let catalogs : Catalogs := ⟨⟨.claim, []⟩, ⟨.observation, []⟩, ⟨.inequality, []⟩⟩
    let session : Session := .ofClaim claim catalogs source
    let strike : Tree :=
      .observation "nnnn" .observe [.ofLeaf "nnnnn" (.key "strike")]
    session.root.ids.Nodup ∧ strike ∈ session.root.walk ∧
      ∃ path part, session.EditsOccurrence claim strike path part := by
  intro claim source catalogs session strike
  have distinct : session.root.ids.Nodup := by
    rw [Tree.ids_eq_map]
    decide
  have present : strike ∈ session.root.walk := by
    rw [Tree.walk_eq_preorder]
    have fourth : session.root.preorder[4]? = some strike := rfl
    exact List.mem_of_getElem? fourth
  exact ⟨distinct, present, submit_replace distinct present⟩

end Session
end ContingentClaims
