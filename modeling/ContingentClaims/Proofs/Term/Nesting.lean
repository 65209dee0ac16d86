import ContingentClaims.Proofs.Term.Parts
import ContingentClaims.Proofs.Tree.Document

/-!
# How deeply documents nest

The document of a term is read back from its text unless it nests too deeply
(`Part.parse?_pretty_toJson`), as that of a tree is. What is drawn below a part nests less
deeply than the part, so a property of parts can be proved by induction on what is drawn
(`Part.drawnInduction`).
-/

namespace ContingentClaims

/-! ## Documents of parts -/

/-- The document of a leaf within a term. -/
def Leaf.bareJson : Leaf -> Json
  | asset content => content.toJson
  | decimal content => content.toJson
  | date content => content.toJson
  | key content => .string content

namespace Part

/-- The document of a part within a term. -/
def toJson : Part -> Json
  | claim term => term.toJson
  | electable alternative => alternative.toJson
  | observation term => term.toJson
  | inequality term => term.toJson
  | leaf content => content.bareJson

theorem claimsToJson_eq_map (claims : List Claim) :
    claimsToJson claims = claims.map Claim.toJson := by
  induction claims with
  | nil => rfl
  | cons claim rest restHypothesis => rw [claimsToJson, restHypothesis, List.map_cons]

theorem electablesToJson_eq_map (electables : List Electable) :
    electablesToJson electables = electables.map Electable.toJson := by
  induction electables with
  | nil => rfl
  | cons electable rest restHypothesis =>
      rw [electablesToJson, restHypothesis, List.map_cons]

end Part

namespace Json

@[simp] theorem depth_tagged
    (tag : String)
    (payload : Json) :
    (tagged tag payload).depth = payload.depth + 1 := by
  simp [tagged, depth, depthOfFields]

theorem depth_le_depthOfItems
    {item : Json}
    {items : List Json}
    (present : item ∈ items) :
    item.depth ≤ depthOfItems items := by
  induction present with
  | head rest => exact Nat.le_max_left ..
  | tail first _ restHypothesis => exact Nat.le_trans restHypothesis (Nat.le_max_right ..)

theorem depthOfItems_le
    {items : List Json}
    {bound : Nat}
    (bounded : ∀ item ∈ items, item.depth ≤ bound) :
    depthOfItems items ≤ bound := by
  induction items with
  | nil => exact Nat.zero_le bound
  | cons item rest restHypothesis =>
      obtain ⟨first, others⟩ := List.forall_mem_cons.1 bounded
      exact Nat.max_le.2 ⟨first, restHypothesis others⟩

end Json

namespace Part

/-! ## Operands nest less deeply -/

theorem depth_lt_of_mem_operands
    {term : Claim}
    {operand : Part}
    (present : operand ∈ term.operands) :
    operand.toJson.depth < term.toJson.depth := by
  cases term with
  | zero => cases present
  | and first second others =>
      simp only [Claim.operands, List.mem_cons, List.mem_map] at present
      simp only [Claim.toJson, Json.depth_tagged, Json.depth, Json.depthOfFields]
      rcases present with rfl | rfl | ⟨other, listed, rfl⟩
      · simp only [toJson]
        omega
      · simp only [toJson]
        omega
      · have below := Json.depth_le_depthOfItems (List.mem_map_of_mem (f := Claim.toJson) listed)
        rw [← claimsToJson_eq_map] at below
        simp only [toJson]
        omega
  | or first second others =>
      simp only [Claim.operands, List.mem_cons, List.mem_map] at present
      simp only [Claim.toJson, Json.depth_tagged, Json.depth, Json.depthOfFields]
      rcases present with rfl | rfl | ⟨other, listed, rfl⟩
      · simp only [toJson]
        omega
      · simp only [toJson]
        omega
      · have below := Json.depth_le_depthOfItems
          (List.mem_map_of_mem (f := Electable.toJson) listed)
        rw [← electablesToJson_eq_map] at below
        simp only [toJson]
        omega
  | _ =>
      simp only [Claim.operands, List.mem_cons, List.not_mem_nil, or_false] at present
      rcases present with rfl | rfl | rfl <;>
      · simp only [Claim.toJson, Json.depth_tagged, Json.depth, Json.depthOfFields, toJson,
          Leaf.bareJson]
        omega

theorem depth_lt_of_mem_drawn_observation
    {term : Observation}
    {operand : Part}
    (present : operand ∈ (observation term).drawn) :
    operand.toJson.depth < term.toJson.depth := by
  cases term with
  | add left right =>
      cases right <;>
      · simp only [drawn, Observation.operands, List.mem_cons, List.not_mem_nil,
          or_false] at present
        rcases present with rfl | rfl <;>
        · simp only [Observation.toJson, Json.depth_tagged, Json.depth, Json.depthOfItems,
            toJson]
          omega
  | _ =>
      simp only [drawn, Observation.operands, List.mem_cons, List.not_mem_nil,
        or_false] at present
      rcases present with rfl | rfl <;>
      · simp only [Observation.toJson, Json.depth_tagged, Json.depth, Json.depthOfItems,
          Json.depthOfFields, toJson, Leaf.bareJson]
        omega

/-- What is drawn below a part nests less deeply than the part. -/
theorem depth_lt_of_mem_drawn
    {part operand : Part}
    (present : operand ∈ part.drawn) :
    operand.toJson.depth < part.toJson.depth := by
  cases part with
  | claim term => exact depth_lt_of_mem_operands present
  | electable alternative =>
      rcases alternative with ⟨label, term⟩
      have below : operand.toJson.depth < term.toJson.depth := depth_lt_of_mem_operands present
      have inside : (Electable.mk label term).toJson.depth = term.toJson.depth + 1 := by
        simp [Electable.toJson, Json.depth, Json.depthOfFields]
      exact below.trans (inside ▸ Nat.lt_succ_self _)
  | observation term => exact depth_lt_of_mem_drawn_observation present
  | inequality term =>
      cases term <;>
      · simp only [drawn, Inequality.operands, List.mem_cons, List.not_mem_nil,
          or_false] at present
        rcases present with rfl | rfl <;>
        · simp only [Inequality.toJson, Json.depth_tagged, Json.depth, Json.depthOfItems,
            toJson, Leaf.bareJson]
          omega
  | leaf content => cases present

/-- What holds of a part whenever it holds of what is drawn below it holds of every
part. -/
@[elab_as_elim] theorem drawnInduction
    {motive : Part -> Prop}
    (step : ∀ part, (∀ operand ∈ part.drawn, motive operand) -> motive part)
    (part : Part) : motive part := by
  induction part using (measure fun part : Part => part.toJson.depth).wf.induction with
  | _ part partHypothesis =>
      exact step part fun operand present =>
        partHypothesis operand (depth_lt_of_mem_drawn present)

/-! ## Reading the text of a document -/

theorem isPlain_toJson_claim
    {term : Claim}
    (operandsPlain : ∀ operand ∈ term.operands, operand.toJson.IsPlain) :
    term.toJson.IsPlain := by
  cases term <;>
    simp_all [Claim.operands, Claim.toJson, claimsToJson_eq_map, electablesToJson_eq_map,
      toJson, Leaf.bareJson]

theorem isPlain_toJson_observation
    {term : Observation}
    (drawnPlain : ∀ operand ∈ (observation term).drawn, operand.toJson.IsPlain) :
    term.toJson.IsPlain := by
  cases term with
  | add left right =>
      cases right <;> simp_all [drawn, Observation.operands, Observation.toJson, toJson]
  | _ => simp_all [drawn, Observation.operands, Observation.toJson, toJson, Leaf.bareJson]

/-- The scalars in the document of a part are strings, and no object in it has two fields
of one name. -/
theorem isPlain_toJson (part : Part) : part.toJson.IsPlain := by
  induction part using drawnInduction with
  | step part partHypothesis =>
      cases part with
      | claim term => exact isPlain_toJson_claim partHypothesis
      | electable alternative =>
          rcases alternative with ⟨label, term⟩
          simpa [toJson, Electable.toJson] using isPlain_toJson_claim partHypothesis
      | observation term => exact isPlain_toJson_observation partHypothesis
      | inequality term =>
          cases term <;>
            simp_all [drawn, Inequality.operands, Inequality.toJson, toJson, Leaf.bareJson]
      | leaf content =>
          rcases content with ⟨id, _ | version⟩ | value | date | key <;>
            simp [toJson, Leaf.bareJson, Asset.toJson, Decimal.toJson, Date.toJson]

/-- The line that is printed for a part is read as its document, unless this nests too
deeply. -/
theorem parse?_pretty_toJson (part : Part) :
    Json.parse? (part.toJson.pretty ++ "\n") =
      if part.toJson.depth ≤ Json.maxDepth then some part.toJson else none :=
  Json.parse?_pretty_line part.isPlain_toJson

end Part

/-! ## Documents of nodes -/

theorem Leaf.depth_toJson (content : Leaf) :
    content.toJson.depth = content.bareJson.depth + 1 := by
  cases content <;> simp [toJson, bareJson, Json.depth, Json.depthOfFields]

namespace Tree

/-- The document of a node nests two levels deeper than those of the children. -/
theorem depth_toJson_le
    {tree : Tree}
    {bound : Nat}
    (childBound : ∀ child ∈ tree.children, child.toJson.depth ≤ bound)
    (leafBound : ∀ content, tree.value = some content -> content.toJson.depth ≤ bound + 1) :
    tree.toJson.depth ≤ bound + 2 := by
  rcases tree with ⟨id, tag, type, children, text, value⟩
  have below : Json.depthOfItems (treesToJson children) ≤ bound := by
    refine Json.depthOfItems_le fun item present => ?_
    rw [treesToJson_eq_map] at present
    obtain ⟨child, isChild, rfl⟩ := List.mem_map.1 present
    exact childBound child isChild
  rcases text with _ | text <;> rcases value with _ | content
  · simp [toJson, Json.depth, Json.depthOfFields]
    omega
  · have := leafBound content rfl
    simp [toJson, Json.depth, Json.depthOfFields]
    omega
  · simp [toJson, Json.depth, Json.depthOfFields]
    omega
  · have := leafBound content rfl
    simp [toJson, Json.depth, Json.depthOfFields]
    omega

end Tree
end ContingentClaims
