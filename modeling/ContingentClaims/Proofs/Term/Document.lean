import ContingentClaims.Proofs.Term.Zeros
import ContingentClaims.Term.Document

/-!
# Reading back the document of a term

The document of a claim, an observation or an inequality is read as the term, but for
the signs of zeros, which no literal carries (`Claim.ofJson?_toJson`).
-/

namespace ContingentClaims

/-! ## Records in objects -/

namespace Json

/-- The fields of an object are found by their names. -/
theorem named?_object
    (fields : List (String × Json))
    (name : String) :
    ((Json.object fields).named? name).map (·.val) = lookup name fields := by
  rw [named?]
  split
  next missing => exact missing.symm
  next part found => exact found.symm

/-- The members of an object are its fields. -/
theorem member?_object_eq
    (fields : List (String × Json))
    (position : Nat)
    (name : String) :
    (Json.object fields).member? position name = (Json.object fields).named? name := by
  have noItem : (Json.object fields).item? position = none := rfl
  rw [member?, noItem, Option.or_none]

theorem member?_object
    (fields : List (String × Json))
    (position : Nat)
    (name : String) :
    ((Json.object fields).member? position name).map (·.val) = lookup name fields := by
  rw [member?_object_eq, named?_object]

theorem memberText?_object
    (fields : List (String × Json))
    (position : Nat)
    (name : String) :
    (Json.object fields).memberText? position name = (lookup name fields).bind string? := by
  rw [memberText?, ← member?_object fields position name]
  cases (Json.object fields).member? position name <;> rfl

theorem memberOptionalText?_object
    (fields : List (String × Json))
    (position : Nat)
    (name : String) :
    (Json.object fields).memberOptionalText? position name =
      optionalText? (lookup name fields) := by
  rw [memberOptionalText?, member?_object]

/-- A member of an object that is there. -/
theorem exists_member?_object
    {fields : List (String × Json)}
    {name : String}
    {content : Json}
    (found : lookup name fields = some content)
    (position : Nat) :
    ∃ smaller, (Json.object fields).member? position name = some ⟨content, smaller⟩ := by
  rw [← member?_object fields position name, Option.map_eq_some_iff] at found
  obtain ⟨⟨part, smaller⟩, here, rfl⟩ := found
  exact ⟨smaller, here⟩

theorem sizeOf_lt_tagged
    (tag : String)
    (payload : Json) :
    sizeOf payload < sizeOf (tagged tag payload) := by
  simp [tagged]
  omega

theorem payload?_tagged_eq
    (tag : String)
    (payload : Json) :
    (tagged tag payload).payload? = some ⟨payload, sizeOf_lt_tagged tag payload⟩ :=
  Option.map_injective Subtype.val_injective (payload?_tagged tag payload)

section Fields

variable (name key : String) (content : Json) (rest : List (String × Json))

theorem sizeOf_lt_object : sizeOf content < sizeOf (Json.object ((key, content) :: rest)) := by
  simp
  omega

theorem sizeOf_object_lt :
    sizeOf (Json.object rest) < sizeOf (Json.object ((key, content) :: rest)) := by
  simp

/-- A field of an object is the first one of its name. -/
theorem named?_cons :
    (Json.object ((key, content) :: rest)).named? name =
      if key = name then some ⟨content, sizeOf_lt_object key content rest⟩
      else ((Json.object rest).named? name).map fun part =>
        ⟨part.val, Nat.lt_trans part.property (sizeOf_object_lt key content rest)⟩ := by
  apply Option.map_injective Subtype.val_injective
  rw [named?_object, lookup_cons]
  split
  next same => rfl
  next different => rw [Option.map_map, ← named?_object rest name]; rfl

end Fields

/-- The items of an array field; a field that is left out has none. -/
theorem items?_object
    (fields : List (String × Json))
    (name : String) :
    ((Json.object fields).items? name).unattach =
      match lookup name fields with
      | none => some []
      | some (.array items) => some items
      | some _ => none := by
  rw [items?]
  split
  next missing => simp [missing]
  next items found => simp [found]
  next other noArray found =>
    cases other with
    | array items => exact absurd rfl (noArray items)
    | _ => simp [found]

end Json

/-! ## Leaves -/

namespace Asset

theorem ofJson?_toJson (asset : Asset) : ofJson? asset.toJson = some asset := by
  rcases asset with ⟨id, version⟩
  cases version with
  | none => simp [toJson, ofJson?, Json.isRecord, Json.memberText?_object,
      Json.memberOptionalText?_object, Json.string?, Json.optionalText?]
  | some version => simp [toJson, ofJson?, Json.isRecord, Json.memberText?_object,
      Json.memberOptionalText?_object, Json.string?, Json.optionalText?]

end Asset

namespace Date

theorem ofJson?_toJson (date : Date) : ofJson? date.toJson = some date := by
  rw [toJson, ofJson?, Json.string?, Option.bind_some, ofIso?, iso, String.toList_ofList,
    trimChars_isoChars, ofIsoChars?_isoChars]

end Date

namespace Decimal

theorem ofJson?_toJson (value : Decimal) : ofJson? value.toJson = some value.unsignZero := by
  rw [toJson, ofJson?, text, String.toList_ofList, ofLiteral?_toChars]

end Decimal

/-! ## Observations and inequalities -/

namespace Observation

/-- The document of an observation is read as it, but for the signs of zeros. -/
theorem ofJson?_toJson (term : Observation) :
    ofJson? term.toJson = some term.unsignZeros := by
  induction term with
  | const value =>
      change ofJson? (.tagged ObservationTag.const.name value.toJson) = _
      rw [ofJson?]
      simp [Json.payload?_tagged_eq, Decimal.ofJson?_toJson, unsignZeros]
  | observe key =>
      change ofJson? (.tagged ObservationTag.observe.name (.string key)) = _
      rw [ofJson?]
      simp [Json.payload?_tagged_eq, Json.string?, unsignZeros]
  | observeAt key date =>
      change ofJson? (.tagged ObservationTag.observeAt.name
        (.object [("date", date.toJson), ("key", .string key)])) = _
      rw [ofJson?]
      simp [Json.payload?_tagged_eq, Json.field?, Json.string?, Date.ofJson?_toJson,
        unsignZeros]
  | add left right leftHypothesis rightHypothesis =>
      change ofJson? (.tagged ObservationTag.add.name
        (.array [left.toJson, right.toJson])) = _
      rw [ofJson?]
      simp [Json.payload?_tagged_eq, Json.pair?, leftHypothesis, rightHypothesis,
        unsignZeros]
  | neg operand operandHypothesis =>
      change ofJson? (.tagged ObservationTag.neg.name operand.toJson) = _
      rw [ofJson?]
      simp [Json.payload?_tagged_eq, operandHypothesis, unsignZeros]
  | mul left right leftHypothesis rightHypothesis =>
      change ofJson? (.tagged ObservationTag.mul.name
        (.array [left.toJson, right.toJson])) = _
      rw [ofJson?]
      simp [Json.payload?_tagged_eq, Json.pair?, leftHypothesis, rightHypothesis,
        unsignZeros]
  | div left right leftHypothesis rightHypothesis =>
      change ofJson? (.tagged ObservationTag.div.name
        (.array [left.toJson, right.toJson])) = _
      rw [ofJson?]
      simp [Json.payload?_tagged_eq, Json.pair?, leftHypothesis, rightHypothesis,
        unsignZeros]

end Observation

namespace Inequality

/-- The document of an inequality is read as it, but for the signs of zeros. -/
theorem ofJson?_toJson (term : Inequality) :
    ofJson? term.toJson = some term.unsignZeros := by
  cases term with
  | timeGte date =>
      change ofJson? (.tagged InequalityTag.timeGte.name date.toJson) = _
      simp [ofJson?, Json.payload?_tagged_eq, Date.ofJson?_toJson, unsignZeros]
  | timeLte date =>
      change ofJson? (.tagged InequalityTag.timeLte.name date.toJson) = _
      simp [ofJson?, Json.payload?_tagged_eq, Date.ofJson?_toJson, unsignZeros]
  | lte left right =>
      change ofJson? (.tagged InequalityTag.lte.name
        (.array [left.toJson, right.toJson])) = _
      simp [ofJson?, Json.payload?_tagged_eq, Json.pair?, Observation.ofJson?_toJson,
        unsignZeros]

end Inequality

/-! ## Claims -/

mutual

/-- The document of a claim is read as it, but for the signs of zeros. -/
theorem Claim.ofJson?_toJson (term : Claim) :
    Claim.ofJson? term.toJson = some term.unsignZeros := by
  cases term with
  | zero =>
      have tagged : Claim.zero.toJson.tag? = some ClaimTag.zero.name := rfl
      have bare : Claim.zero.toJson.payload? = none := rfl
      rw [Claim.ofJson?, tagged, Option.bind_some, ClaimTag.ofName?_name, bare]
      rfl
  | one asset =>
      change Claim.ofJson? (.tagged ClaimTag.one.name asset.toJson) = _
      rw [Claim.ofJson?]
      simp only [Json.tag?_tagged, ClaimTag.ofName?_name, Option.bind_eq_bind,
        Option.bind_some]
      simp [Json.payload?_tagged_eq, Asset.ofJson?_toJson, Claim.unsignZeros]
  | give claim =>
      change Claim.ofJson? (.tagged ClaimTag.give.name claim.toJson) = _
      rw [Claim.ofJson?]
      simp only [Json.tag?_tagged, ClaimTag.ofName?_name, Option.bind_eq_bind,
        Option.bind_some]
      simp [Json.payload?_tagged_eq, Claim.ofJson?_toJson claim, Claim.unsignZeros]
  | and first second others =>
      change Claim.ofJson? (.tagged ClaimTag.and.name (.object [("a1", first.toJson),
        ("a2", second.toJson), ("as", .array (claimsToJson others))])) = _
      rw [Claim.ofJson?]
      simp only [Json.tag?_tagged, ClaimTag.ofName?_name, Option.bind_eq_bind,
        Option.bind_some]
      simp [Json.payload?_tagged_eq, Json.named?_cons, Json.items?_object,
        Claim.ofJson?_toJson first, Claim.ofJson?_toJson second,
        claimsOfJson?_claimsToJson others, Claim.unsignZeros]
  | or first second others =>
      change Claim.ofJson? (.tagged ClaimTag.or.name (.object [("o1", first.toJson),
        ("o2", second.toJson), ("os", .array (electablesToJson others))])) = _
      rw [Claim.ofJson?]
      simp only [Json.tag?_tagged, ClaimTag.ofName?_name, Option.bind_eq_bind,
        Option.bind_some]
      simp [Json.payload?_tagged_eq, Json.named?_cons, Json.items?_object,
        Electable.ofJson?_toJson first, Electable.ofJson?_toJson second,
        electablesOfJson?_electablesToJson others, Claim.unsignZeros]
  | cond predicate success failure =>
      change Claim.ofJson? (.tagged ClaimTag.cond.name (.object [
        ("failure", failure.toJson), ("predicate", predicate.toJson),
        ("success", success.toJson)])) = _
      rw [Claim.ofJson?]
      simp only [Json.tag?_tagged, ClaimTag.ofName?_name, Option.bind_eq_bind,
        Option.bind_some]
      simp [Json.payload?_tagged_eq, Json.named?_cons, Inequality.ofJson?_toJson,
        Claim.ofJson?_toJson success, Claim.ofJson?_toJson failure, Claim.unsignZeros]
  | scale factor claim =>
      change Claim.ofJson? (.tagged ClaimTag.scale.name (.object [("claim", claim.toJson),
        ("factor", factor.toJson)])) = _
      rw [Claim.ofJson?]
      simp only [Json.tag?_tagged, ClaimTag.ofName?_name, Option.bind_eq_bind,
        Option.bind_some]
      simp [Json.payload?_tagged_eq, Json.named?_cons, Observation.ofJson?_toJson,
        Claim.ofJson?_toJson claim, Claim.unsignZeros]
  | whenHolds predicate claim =>
      change Claim.ofJson? (.tagged ClaimTag.whenHolds.name (.object [
        ("claim", claim.toJson), ("predicate", predicate.toJson)])) = _
      rw [Claim.ofJson?]
      simp only [Json.tag?_tagged, ClaimTag.ofName?_name, Option.bind_eq_bind,
        Option.bind_some]
      simp [Json.payload?_tagged_eq, Json.named?_cons, Inequality.ofJson?_toJson,
        Claim.ofJson?_toJson claim, Claim.unsignZeros]
  | untilHolds predicate claim =>
      change Claim.ofJson? (.tagged ClaimTag.untilHolds.name (.object [
        ("claim", claim.toJson), ("predicate", predicate.toJson)])) = _
      rw [Claim.ofJson?]
      simp only [Json.tag?_tagged, ClaimTag.ofName?_name, Option.bind_eq_bind,
        Option.bind_some]
      simp [Json.payload?_tagged_eq, Json.named?_cons, Inequality.ofJson?_toJson,
        Claim.ofJson?_toJson claim, Claim.unsignZeros]
  | anytime predicate electable =>
      change Claim.ofJson? (.tagged ClaimTag.anytime.name (.object [
        ("electable", electable.toJson), ("predicate", predicate.toJson)])) = _
      rw [Claim.ofJson?]
      simp only [Json.tag?_tagged, ClaimTag.ofName?_name, Option.bind_eq_bind,
        Option.bind_some]
      simp [Json.payload?_tagged_eq, Json.named?_cons, Inequality.ofJson?_toJson,
        Electable.ofJson?_toJson electable, Claim.unsignZeros]
termination_by structural term

/-- The document of an alternative is read as it, but for the signs of zeros. -/
theorem Electable.ofJson?_toJson (alternative : Electable) :
    Electable.ofJson? alternative.toJson = some alternative.unsignZeros := by
  cases alternative with
  | mk label claim =>
      rw [Electable.toJson, Electable.ofJson?]
      simp [Json.isRecord, Json.memberText?_object, Json.member?_object_eq,
        Json.named?_cons, Json.string?, Claim.ofJson?_toJson claim, Electable.unsignZeros]
termination_by structural alternative

theorem claimsOfJson?_claimsToJson (claims : List Claim) :
    claimsOfJson? (claimsToJson claims) = some (unsignZerosOfClaims claims) := by
  cases claims with
  | nil =>
      rw [claimsToJson, claimsOfJson?]
      rfl
  | cons claim rest =>
      rw [claimsToJson, claimsOfJson?, Claim.ofJson?_toJson claim,
        claimsOfJson?_claimsToJson rest]
      rfl
termination_by structural claims

theorem electablesOfJson?_electablesToJson (electables : List Electable) :
    electablesOfJson? (electablesToJson electables) =
      some (unsignZerosOfElectables electables) := by
  cases electables with
  | nil =>
      rw [electablesToJson, electablesOfJson?]
      rfl
  | cons electable rest =>
      rw [electablesToJson, electablesOfJson?, Electable.ofJson?_toJson electable,
        electablesOfJson?_electablesToJson rest]
      rfl
termination_by structural electables

end
end ContingentClaims
