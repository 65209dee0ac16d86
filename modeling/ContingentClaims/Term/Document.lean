import ContingentClaims.Decimal.Literal
import ContingentClaims.Json.Part
import ContingentClaims.Term.Basic

/-!
# Documents of terms

Every term is a tagged value `{"tag": …, "value": …}` in a document. Writing
produces one canonical form; reading is more generous: fields may come in any
order, unknown ones are ignored, lists of further operands may be left out, and
records may be arrays.
-/

namespace ContingentClaims

/-! ## Assets -/

namespace Asset

/-- The document of an asset; the version is left out when there is none. -/
def toJson (asset : Asset) : Json :=
  .object (("id", .string asset.id) ::
    match asset.version with
    | none => []
    | some version => [("version", .string version)])

/-- The asset of a document. -/
def ofJson? (value : Json) : Option Asset :=
  if value.isRecord 2 then
    return { id := <- value.memberText? 0 "id"
             version := <- value.memberOptionalText? 1 "version" }
  else
    none

end Asset

/-! ## Observations -/

namespace Observation

/-- The document of an observation. -/
def toJson : Observation -> Json
  | const value => .tagged "Const" value.toJson
  | observe key => .tagged "Observe" (.string key)
  | observeAt key date =>
      .tagged "ObserveAt" (.object [("date", date.toJson), ("key", .string key)])
  | add left right => .tagged "Add" (.array [left.toJson, right.toJson])
  | neg operand => .tagged "Neg" operand.toJson
  | mul left right => .tagged "Mul" (.array [left.toJson, right.toJson])
  | div left right => .tagged "Div" (.array [left.toJson, right.toJson])

/-- The observation of a document. A difference is no tag of a document. -/
def ofJson? (value : Json) : Option Observation := do
  let tag <- value.tag?.bind ObservationTag.ofName?
  let ⟨payload, _⟩ <- value.payload?
  match tag with
  | .const => return const (<- Decimal.ofJson? payload)
  | .observe => return observe (<- payload.string?)
  | .observeAt => do
      let key <- (payload.field? "key").bind Json.string?
      let date <- payload.field? "date"
      return observeAt key (<- Date.ofJson? date)
  | .add => do
      let (⟨left, _⟩, ⟨right, _⟩) <- payload.pair?
      return add (<- ofJson? left) (<- ofJson? right)
  | .sub => none
  | .neg => return neg (<- ofJson? payload)
  | .mul => do
      let (⟨left, _⟩, ⟨right, _⟩) <- payload.pair?
      return mul (<- ofJson? left) (<- ofJson? right)
  | .div => do
      let (⟨left, _⟩, ⟨right, _⟩) <- payload.pair?
      return div (<- ofJson? left) (<- ofJson? right)
  termination_by sizeOf value

end Observation

/-! ## Inequalities -/

namespace Inequality

/-- The document of an inequality. -/
def toJson : Inequality -> Json
  | timeGte date => .tagged "TimeGte" date.toJson
  | timeLte date => .tagged "TimeLte" date.toJson
  | lte left right => .tagged "Lte" (.array [left.toJson, right.toJson])

/-- The inequality of a document. -/
def ofJson? (value : Json) : Option Inequality := do
  let tag <- value.tag?.bind InequalityTag.ofName?
  let ⟨payload, _⟩ <- value.payload?
  match tag with
  | .timeGte => return timeGte (<- Date.ofJson? payload)
  | .timeLte => return timeLte (<- Date.ofJson? payload)
  | .lte => do
      let (left, right) <- payload.pair?
      return lte (<- Observation.ofJson? left) (<- Observation.ofJson? right)

end Inequality

/-! ## Claims -/

mutual

/-- The document of a claim. -/
def Claim.toJson : Claim -> Json
  | .zero => .object [("tag", .string "Zero")]
  | .one asset => .tagged "One" asset.toJson
  | .give claim => .tagged "Give" claim.toJson
  | .and first second others =>
      .tagged "And" (.object [("a1", first.toJson), ("a2", second.toJson),
        ("as", .array (claimsToJson others))])
  | .or first second others =>
      .tagged "Or" (.object [("o1", first.toJson), ("o2", second.toJson),
        ("os", .array (electablesToJson others))])
  | .cond predicate success failure =>
      .tagged "Cond" (.object [("failure", failure.toJson),
        ("predicate", predicate.toJson), ("success", success.toJson)])
  | .scale factor claim =>
      .tagged "Scale" (.object [("claim", claim.toJson), ("factor", factor.toJson)])
  | .whenHolds predicate claim =>
      .tagged "When" (.object [("claim", claim.toJson), ("predicate", predicate.toJson)])
  | .untilHolds predicate claim =>
      .tagged "Until" (.object [("claim", claim.toJson), ("predicate", predicate.toJson)])
  | .anytime predicate electable =>
      .tagged "Anytime" (.object [("electable", electable.toJson),
        ("predicate", predicate.toJson)])
termination_by structural claim => claim

/-- The document of an alternative. -/
def Electable.toJson : Electable -> Json
  | .mk label claim => .object [("claim", claim.toJson), ("label", .string label)]
termination_by structural electable => electable

/-- The documents of claims in order. -/
def claimsToJson : List Claim -> List Json
  | [] => []
  | claim :: rest => claim.toJson :: claimsToJson rest
termination_by structural claims => claims

/-- The documents of alternatives in order. -/
def electablesToJson : List Electable -> List Json
  | [] => []
  | electable :: rest => electable.toJson :: electablesToJson rest
termination_by structural electables => electables

end

mutual

/-- The claim of a document. -/
def Claim.ofJson? (value : Json) : Option Claim := do
  let tag <- value.tag?.bind ClaimTag.ofName?
  match tag with
  | .zero =>
      match value.payload? with
      | none => some .zero
      | some ⟨.null, _⟩ => some .zero
      | some _ => none
  | .one => do
      let ⟨payload, _⟩ <- value.payload?
      return .one (<- Asset.ofJson? payload)
  | .give => do
      let ⟨payload, _⟩ <- value.payload?
      return .give (<- Claim.ofJson? payload)
  | .and => do
      let ⟨payload, _⟩ <- value.payload?
      let ⟨first, _⟩ <- payload.named? "a1"
      let ⟨second, _⟩ <- payload.named? "a2"
      let ⟨others, _⟩ <- payload.items? "as"
      return .and (<- Claim.ofJson? first) (<- Claim.ofJson? second)
        (<- claimsOfJson? others)
  | .or => do
      let ⟨payload, _⟩ <- value.payload?
      let ⟨first, _⟩ <- payload.named? "o1"
      let ⟨second, _⟩ <- payload.named? "o2"
      let ⟨others, _⟩ <- payload.items? "os"
      return .or (<- Electable.ofJson? first) (<- Electable.ofJson? second)
        (<- electablesOfJson? others)
  | .cond => do
      let ⟨payload, _⟩ <- value.payload?
      let ⟨predicate, _⟩ <- payload.named? "predicate"
      let ⟨success, _⟩ <- payload.named? "success"
      let ⟨failure, _⟩ <- payload.named? "failure"
      return .cond (<- Inequality.ofJson? predicate) (<- Claim.ofJson? success)
        (<- Claim.ofJson? failure)
  | .scale => do
      let ⟨payload, _⟩ <- value.payload?
      let ⟨factor, _⟩ <- payload.named? "factor"
      let ⟨claim, _⟩ <- payload.named? "claim"
      return .scale (<- Observation.ofJson? factor) (<- Claim.ofJson? claim)
  | .whenHolds => do
      let ⟨payload, _⟩ <- value.payload?
      let ⟨predicate, _⟩ <- payload.named? "predicate"
      let ⟨claim, _⟩ <- payload.named? "claim"
      return .whenHolds (<- Inequality.ofJson? predicate) (<- Claim.ofJson? claim)
  | .untilHolds => do
      let ⟨payload, _⟩ <- value.payload?
      let ⟨predicate, _⟩ <- payload.named? "predicate"
      let ⟨claim, _⟩ <- payload.named? "claim"
      return .untilHolds (<- Inequality.ofJson? predicate) (<- Claim.ofJson? claim)
  | .anytime => do
      let ⟨payload, _⟩ <- value.payload?
      let ⟨predicate, _⟩ <- payload.named? "predicate"
      let ⟨electable, _⟩ <- payload.named? "electable"
      return .anytime (<- Inequality.ofJson? predicate) (<- Electable.ofJson? electable)
termination_by sizeOf value

/-- The alternative of a document. -/
def Electable.ofJson? (value : Json) : Option Electable :=
  if value.isRecord 2 then do
    let label <- value.memberText? 0 "label"
    let ⟨claim, _⟩ <- value.member? 1 "claim"
    return .mk label (<- Claim.ofJson? claim)
  else
    none
termination_by sizeOf value

/-- The claims of documents in order. -/
def claimsOfJson? (items : List Json) : Option (List Claim) :=
  match items with
  | [] => some []
  | item :: rest => do
      let claim <- Claim.ofJson? item
      return claim :: (<- claimsOfJson? rest)
termination_by sizeOf items

/-- The alternatives of documents in order. -/
def electablesOfJson? (items : List Json) : Option (List Electable) :=
  match items with
  | [] => some []
  | item :: rest => do
      let electable <- Electable.ofJson? item
      return electable :: (<- electablesOfJson? rest)
termination_by sizeOf items

end

end ContingentClaims
