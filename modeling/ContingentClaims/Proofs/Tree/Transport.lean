import ContingentClaims.Proofs.Term.Decimals
import ContingentClaims.Proofs.Tree.Document

/-!
# Transport in documents

A value that is written as a document and read again comes back exactly, unless one of its
decimals is a negative zero, whose sign is lost. So reading a document that is accepted and
writing it in canonical form is idempotent just if no negative zero is read, and in any case
nothing changes after the second time (`Format.transports`).
-/

namespace ContingentClaims

/-- How the values of a type are written as documents and read from them. -/
structure Format (Value : Type) where
  write : Value -> Json
  read? : Json -> Option Value
  /-- The decimals in a value. -/
  decimals : Value -> List Decimal

namespace Format

/-! ## Rewriting documents -/

section Rewriting

variable {Value : Type}

/-- Read a document and write in canonical form what is read. -/
def rewrite?
    (format : Format Value)
    (document : Json) : Option Json :=
  (format.read? document).map format.write

/-- A value in which no decimal is a negative zero. -/
def IsUnsigned
    (format : Format Value)
    (value : Value) : Prop :=
  ∀ d ∈ format.decimals value, d.IsUnsigned

/-- What survives the transport in documents. -/
structure Transports (format : Format Value) : Prop where
  /-- A value comes back exactly just if no decimal in it is a negative zero. -/
  exact_iff : ∀ value,
    format.read? (format.write value) = some value ↔ format.IsUnsigned value
  /-- Every value comes back, and its decimals lose nothing but the sign of a zero. -/
  returns : ∀ value, ∃ returned, format.read? (format.write value) = some returned ∧
    format.decimals returned = (format.decimals value).map Decimal.unsignZero
  /-- What has come back is written as before just if no decimal is a negative zero. -/
  rewrites_iff : ∀ value,
    format.rewrite? (format.write value) = some (format.write value) ↔
      format.IsUnsigned value
  /-- Rewriting an accepted document is idempotent just if no negative zero is read. -/
  idempotent_iff : ∀ document value, format.read? document = some value ->
    ∃ rewritten, format.rewrite? document = some rewritten ∧
      (format.rewrite? rewritten = some rewritten ↔ format.IsUnsigned value)
  /-- Rewriting any accepted document a second time settles it. -/
  settles : ∀ document rewritten, format.rewrite? document = some rewritten ->
    ∃ settled, format.rewrite? rewritten = some settled ∧
      format.rewrite? settled = some settled

/-- A format survives the transport if what is read back is the value without the signs of
its zeros, and a sign shows in what is written. -/
theorem transports_of_unsign
    {format : Format Value}
    {unsign : Value -> Value}
    (back : ∀ value, format.read? (format.write value) = some (unsign value))
    (fixed : ∀ value, unsign value = value ↔ format.IsUnsigned value)
    (shown : ∀ value, format.write (unsign value) = format.write value ↔ unsign value = value)
    (lost : ∀ value,
      format.decimals (unsign value) = (format.decimals value).map Decimal.unsignZero) :
    format.Transports := by
  have rewritten (value : Value) :
      format.rewrite? (format.write value) = some (format.write (unsign value)) := by
    rw [rewrite?, back value]
    rfl
  have rewrites (value : Value) :
      format.rewrite? (format.write value) = some (format.write value) ↔
        format.IsUnsigned value := by
    rw [rewritten, Option.some_inj, shown, fixed]
  constructor
  · intro value
    rw [back value, Option.some_inj, fixed]
  · intro value
    exact ⟨unsign value, back value, lost value⟩
  · exact rewrites
  · intro document value read
    refine ⟨format.write value, ?_, rewrites value⟩
    rw [rewrite?, read]
    rfl
  · intro document first rewriting
    obtain ⟨value, _, rfl⟩ := Option.map_eq_some_iff.1 rewriting
    have unsigned : format.IsUnsigned (unsign value) := by
      intro d present
      rw [lost value] at present
      obtain ⟨signed, _, rfl⟩ := List.mem_map.1 present
      exact signed.isUnsigned_unsignZero
    exact ⟨format.write (unsign value), rewritten value, (rewrites _).2 unsigned⟩

end Rewriting

/-! ## The formats -/

/-- The documents of assets. -/
def asset : Format Asset where
  write := Asset.toJson
  read? := Asset.ofJson?
  decimals := fun _ => []

/-- The documents of alternatives. -/
def electable : Format Electable where
  write := Electable.toJson
  read? := Electable.ofJson?
  decimals := Electable.decimals

/-- The documents of claims. -/
def claim : Format Claim where
  write := Claim.toJson
  read? := Claim.ofJson?
  decimals := Claim.decimals

/-- The documents of observations. -/
def observation : Format Observation where
  write := Observation.toJson
  read? := Observation.ofJson?
  decimals := Observation.decimals

/-- The documents of inequalities. -/
def inequality : Format Inequality where
  write := Inequality.toJson
  read? := Inequality.ofJson?
  decimals := Inequality.decimals

/-- The documents of leaves. -/
def leaf : Format Leaf where
  write := Leaf.toJson
  read? := Leaf.ofJson?
  decimals := Leaf.decimals

/-- The documents of trees, in the strict or the lenient reading. -/
def tree (lenient : Bool) : Format Tree where
  write := Tree.toJson
  read? := Tree.read? lenient
  decimals := Tree.decimals

/-- The documents of all types lose nothing in transport but the sign of a zero, and only a
literal with an exponent gives a zero a sign. -/
theorem transports :
    asset.Transports ∧ electable.Transports ∧ claim.Transports ∧ observation.Transports ∧
      inequality.Transports ∧ leaf.Transports ∧ (∀ lenient, (tree lenient).Transports) ∧
      (∀ document d, Decimal.ofJson? document = some d -> ¬ d.IsUnsigned ->
        ∃ literal, document = .string literal ∧ Decimal.HasMark literal.toList) := by
  refine ⟨?_, ?_, ?_, ?_, ?_, ?_, ?_, ?_⟩
  · have kept (content : Asset) : id content = content ↔ asset.IsUnsigned content := by
      simp [IsUnsigned, asset]
    exact transports_of_unsign Asset.ofJson?_toJson kept (fun _ => by simp) fun _ => rfl
  · exact transports_of_unsign Electable.ofJson?_toJson Electable.unsignZeros_eq_self_iff
      Electable.toJson_unsignZeros_eq_iff Electable.decimals_unsignZeros
  · exact transports_of_unsign Claim.ofJson?_toJson Claim.unsignZeros_eq_self_iff
      Claim.toJson_unsignZeros_eq_iff Claim.decimals_unsignZeros
  · exact transports_of_unsign Observation.ofJson?_toJson Observation.unsignZeros_eq_self_iff
      Observation.toJson_unsignZeros_eq_iff Observation.decimals_unsignZeros
  · exact transports_of_unsign Inequality.ofJson?_toJson Inequality.unsignZeros_eq_self_iff
      Inequality.toJson_unsignZeros_eq_iff Inequality.decimals_unsignZeros
  · exact transports_of_unsign Leaf.ofJson?_toJson Leaf.unsignZeros_eq_self_iff
      Leaf.toJson_unsignZeros_eq_iff Leaf.decimals_unsignZeros
  · intro lenient
    exact transports_of_unsign (Tree.read?_toJson lenient) Tree.unsignZeros_eq_self_iff
      Tree.toJson_unsignZeros_eq_iff Tree.decimals_unsignZeros
  · intro document d read signed
    exact Decimal.exists_mark_of_ofJson? read signed

/-- A literal whose exponent takes all digits away is written with a minus the first time
and without one the second time. -/
theorem rewrite?_signed_zero :
    let written (literal : String) : Json := .object [("Decimal", .string literal)]
    leaf.rewrite? (written "-0.04e-27") = some (written "-0.0000000000000000000000000000") ∧
      leaf.rewrite? (written "-0.0000000000000000000000000000") =
        some (written "0.0000000000000000000000000000") ∧
      written "-0.0000000000000000000000000000" ≠ written "0.0000000000000000000000000000" := by
  intro written
  let signed : Decimal := ⟨true, 0, 28, by decide, by decide⟩
  have read : Decimal.ofLiteral? "-0.04e-27".toList = some signed := by decide
  have shown : signed.text = "-0.0000000000000000000000000000" := by decide +kernel
  have shownAgain : signed.unsignZero.text = "0.0000000000000000000000000000" := by
    decide +kernel
  refine ⟨?_, ?_, ?_⟩
  · simp only [rewrite?, leaf, written, Leaf.ofJson?, Decimal.ofJson?, read, Option.map_some,
      Leaf.toJson, Decimal.toJson, shown]
  · have back := (Leaf.decimal signed).ofJson?_toJson
    simp only [Leaf.toJson, Decimal.toJson, shown, Leaf.unsignZeros] at back
    simp only [rewrite?, leaf, written, back, Option.map_some, Leaf.toJson, Decimal.toJson,
      shownAgain]
  · simp [written]

end Format
end ContingentClaims
