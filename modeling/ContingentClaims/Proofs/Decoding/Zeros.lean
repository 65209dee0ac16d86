import ContingentClaims.Proofs.Decoding.Denotation
import ContingentClaims.Proofs.Term.Nesting

/-!
# Reading a tree without signed zeros

If the signs of zeros are taken away from the tree that is written for a part, it is read
as the part without signs of zeros (`Tree.Encodes.denotes_unsignZeros`). The document of the
tree nests about twice as deeply as the document of what is read, since a node puts its
children into a list (`Tree.Encodes.depth_toJson_le`).
-/

namespace ContingentClaims

namespace Part

/-- The part with no sign on a zero. -/
def unsignZeros : Part -> Part
  | claim term => claim term.unsignZeros
  | electable alternative => electable alternative.unsignZeros
  | observation term => observation term.unsignZeros
  | inequality term => inequality term.unsignZeros
  | leaf content => leaf content.unsignZeros

theorem map_unsignZeros_claims (claims : List Claim) :
    (unsignZerosOfClaims claims).map claim = (claims.map claim).map unsignZeros := by
  induction claims with
  | nil => rfl
  | cons claim rest restHypothesis =>
      simp [unsignZerosOfClaims, restHypothesis, unsignZeros]

theorem map_unsignZeros_electables (electables : List Electable) :
    (unsignZerosOfElectables electables).map electable =
      (electables.map electable).map unsignZeros := by
  induction electables with
  | nil => rfl
  | cons electable rest restHypothesis =>
      simp [unsignZerosOfElectables, restHypothesis, unsignZeros]

theorem operands_unsignZeros (term : Claim) :
    term.unsignZeros.operands = term.operands.map unsignZeros := by
  cases term with
  | and first second others =>
      simp [Claim.unsignZeros, Claim.operands, map_unsignZeros_claims, unsignZeros]
  | or first second others =>
      simp [Claim.unsignZeros, Claim.operands, map_unsignZeros_electables, unsignZeros]
  | _ => rfl

/-- The operands of a part lose the signs of their zeros with the part. -/
theorem drawn_unsignZeros (part : Part) :
    part.unsignZeros.drawn = part.drawn.map unsignZeros := by
  cases part with
  | claim term => exact operands_unsignZeros term
  | electable alternative =>
      cases alternative with
      | mk label term => exact operands_unsignZeros term
  | observation term =>
      cases term with
      | add left right => cases right <;> rfl
      | _ => rfl
  | inequality term => cases term <;> rfl
  | leaf content => rfl

/-- Only leaves change on the node of a part. -/
theorem node_unsignZeros
    (part : Part)
    (id : NodeId)
    (children : List Tree) :
    part.unsignZeros.node id children =
      { part.node id children with value := part.value.map Leaf.unsignZeros } := by
  cases part with
  | claim term => cases term <;> rfl
  | electable alternative =>
      rcases alternative with ⟨label, term⟩
      cases term <;> rfl
  | observation term =>
      cases term with
      | add left right => cases right <;> rfl
      | _ => rfl
  | inequality term => cases term <;> rfl
  | leaf content => cases content <;> rfl

end Part

namespace Tree

theorem unsignZerosOfTrees_eq_map (trees : List Tree) :
    unsignZerosOfTrees trees = trees.map unsignZeros := by
  induction trees with
  | nil => rfl
  | cons tree rest restHypothesis => rw [unsignZerosOfTrees, restHypothesis, List.map_cons]

/-- The tree of a part is read, without the signs of zeros, as the part without them. -/
theorem Encodes.denotes_unsignZeros
    {tree : Tree}
    {part : Part}
    (encodes : tree.Encodes part) :
    tree.unsignZeros.Denotes part.unsignZeros := by
  induction tree using childInduction generalizing part with
  | step tree childHypothesis =>
      obtain ⟨children, split, operands⟩ := encodes.exists_node
      have listed : tree.children = children := congrArg Tree.children split
      have denote : List.Forall₂ Denotes (children.map unsignZeros)
          part.unsignZeros.drawn := by
        rw [Part.drawn_unsignZeros, List.forall₂_map_left_iff, List.forall₂_map_right_iff]
        have below := (List.forall₂_and_left children part.drawn).2
          ⟨fun _ present => present, operands⟩
        exact below.imp fun child operand both =>
          childHypothesis child (listed ▸ both.1) both.2
      have node : tree.unsignZeros =
          part.unsignZeros.node tree.id (children.map unsignZeros) := by
        rw [Part.node_unsignZeros, ← unsignZerosOfTrees_eq_map]
        rcases tree with ⟨id, tag, type, children, text, value⟩
        subst listed
        simp only [Part.node, mk.injEq] at split
        obtain ⟨_, rfl, rfl, _, rfl, rfl⟩ := split
        rfl
      rw [node]
      exact denotes_node denote tree.id

/-- The document of the tree of a part nests at most two levels deeper than twice the
document of the part that is read. -/
theorem Encodes.depth_toJson_le
    {tree : Tree}
    {part : Part}
    (encodes : tree.Encodes part) :
    tree.toJson.depth ≤ 2 * part.unsignZeros.toJson.depth + 2 := by
  induction part using Part.drawnInduction generalizing tree with
  | step part partHypothesis =>
      obtain ⟨children, split, operands⟩ := encodes.exists_node
      rw [split]
      refine Tree.depth_toJson_le (fun child isChild => ?_) (fun content carried => ?_)
      · obtain ⟨position, inside, rfl⟩ := List.mem_iff_getElem.1 isChild
        have drawnInside : position < part.drawn.length := operands.length_eq ▸ inside
        have present := List.getElem_mem drawnInside
        have unsigned : part.drawn[position].unsignZeros ∈ part.unsignZeros.drawn := by
          rw [Part.drawn_unsignZeros]
          exact List.mem_map_of_mem present
        have below := Part.depth_lt_of_mem_drawn unsigned
        have bound : children[position].toJson.depth ≤
            2 * part.drawn[position].unsignZeros.toJson.depth + 2 :=
          partHypothesis _ present (operands.get inside drawnInside)
        change children[position].toJson.depth ≤ _
        omega
      · cases part with
        | leaf own =>
            obtain rfl : own = content := Option.some.inj carried
            have flat : own.unsignZeros.bareJson.depth = own.bareJson.depth := by
              cases own <;> rfl
            rw [Leaf.depth_toJson]
            simp only [Part.unsignZeros, Part.toJson, flat]
            omega
        | _ => cases carried

/-- The document of the tree of a part can be read if that of the part has at most 62
levels. -/
theorem Encodes.depth_toJson_le_maxDepth
    {tree : Tree}
    {part : Part}
    (encodes : tree.Encodes part)
    (shallow : part.unsignZeros.toJson.depth ≤ 62) :
    tree.toJson.depth ≤ Json.maxDepth := by
  have bound := encodes.depth_toJson_le
  rw [Json.maxDepth]
  omega

end Tree
end ContingentClaims
