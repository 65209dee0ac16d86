import ContingentClaims.Proofs.Term.Zeros
import ContingentClaims.Tree.Document

/-!
# The decimals in a term

What the loss of the signs of zeros does to a term is told by the decimals in it: they
lose their own signs, and a term is left as it is just if no decimal in it is a negative
zero (`Claim.unsignZeros_eq_self_iff`). A sign that is lost shows in the document of the term
(`Claim.toJson_unsignZeros_eq_iff`). Of all the literals in documents only one with an
exponent denotes a negative zero (`Decimal.exists_mark_of_ofJson?`).
-/

namespace ContingentClaims

/-! ## Negative zeros -/

namespace Decimal

/-- A decimal that is no negative zero. -/
def IsUnsigned (d : Decimal) : Prop :=
  d.mantissa = 0 -> d.negative = false

instance (d : Decimal) : Decidable d.IsUnsigned :=
  inferInstanceAs (Decidable (d.mantissa = 0 -> d.negative = false))

theorem unsignZero_eq_self_iff (d : Decimal) : d.unsignZero = d ↔ d.IsUnsigned := by
  rcases d with ⟨negative, mantissa, scale, bounded, places⟩
  cases negative <;> simp [unsignZero, IsUnsigned]

theorem isUnsigned_unsignZero (d : Decimal) : d.unsignZero.IsUnsigned := by
  intro zero
  have noDigits : d.mantissa = 0 := zero
  simp [unsignZero, noDigits]

/-- A plain literal denotes no negative zero. -/
theorem isUnsigned_of_plain?
    {text : List Char}
    {d : Decimal}
    (read : plain? text = some d) :
    d.IsUnsigned := by
  simp only [plain?, Option.bind_eq_bind, Option.bind_eq_some_iff] at read
  obtain ⟨⟨whole, fraction⟩, _, read⟩ := read
  split at read
  next bounded =>
    obtain ⟨⟨mantissa, scale⟩, _, parts⟩ := Option.bind_eq_some_iff.1 read
    rw [ofParts?] at parts
    split at parts
    next bounds =>
      obtain rfl := Option.some.inj parts
      intro zero
      have noDigits : mantissa = 0 := zero
      simp [noDigits]
    next outOfBounds => cases parts
  next tooLarge => cases read

/-! ## Marks of an exponent -/

/-- A text in which the mark of an exponent occurs. -/
def HasMark (text : List Char) : Prop :=
  'e' ∈ text ∨ 'E' ∈ text

instance (text : List Char) : Decidable (HasMark text) :=
  inferInstanceAs (Decidable ('e' ∈ text ∨ 'E' ∈ text))

theorem hasMark_of_scientific?
    {text : List Char}
    {d : Decimal}
    (read : scientific? text = some d) :
    HasMark text := by
  by_contra unmarked
  have noMark : ∀ c ∈ text, (!(c == 'e' || c == 'E')) = true := by
    intro c present
    rw [HasMark, not_or] at unmarked
    have notLower : c ≠ 'e' := fun same => unmarked.1 (same ▸ present)
    have notUpper : c ≠ 'E' := fun same => unmarked.2 (same ▸ present)
    simp [notLower, notUpper]
  have noExponent : text.dropWhile (fun c => !(c == 'e' || c == 'E')) = [] :=
    List.dropWhile_eq_nil_iff.2 noMark
  simp only [scientific?, noExponent] at read
  simp at read

/-- A literal that denotes a negative zero has an exponent. -/
theorem hasMark_of_ofLiteral?
    {text : List Char}
    {d : Decimal}
    (read : ofLiteral? text = some d)
    (signed : ¬ d.IsUnsigned) :
    HasMark text := by
  rw [ofLiteral?, Option.or_eq_some_iff] at read
  rcases read with plain | ⟨_, scientific⟩
  · exact absurd (isUnsigned_of_plain? plain) signed
  · exact hasMark_of_scientific? scientific

theorem not_hasMark_of_digits
    {text : List Char}
    (areDigits : ∀ c ∈ text, Digits.isDigit c = true) :
    ¬ HasMark text := by
  rintro (lower | upper)
  · exact absurd (areDigits _ lower) (by decide)
  · exact absurd (areDigits _ upper) (by decide)

/-- The positional text of a binary number has no exponent. -/
theorem not_hasMark_positional
    (digits : Nat)
    (exponent : Int) :
    ¬ HasMark (Binary64.positional digits exponent) := by
  have written (n : Nat) : ¬ HasMark (Digits.write n) :=
    not_hasMark_of_digits fun _ present => Digits.isDigit_of_mem_write present
  have padded (width n : Nat) : ¬ HasMark (Digits.writePadded width n) :=
    not_hasMark_of_digits fun _ present => Digits.isDigit_of_mem_writePadded present
  have zeros (count : Nat) : ¬ HasMark (List.replicate count '0') := by
    simp [HasMark]
  simp only [HasMark, not_or] at written padded zeros
  unfold Binary64.positional
  split
  · simp [HasMark, written, zeros]
  · simp [HasMark, written, padded]

theorem not_hasMark_shortestText (value : Float) :
    ¬ HasMark (Binary64.shortestText value) := by
  have unsigned {digits : List Char} (unmarked : ¬ HasMark digits) :
      ¬ HasMark ('-' :: digits) := by
    simpa [HasMark] using unmarked
  simp only [Binary64.shortestText]
  split <;> split
  · decide
  · exact not_hasMark_positional _ _
  · decide
  · exact unsigned (not_hasMark_positional _ _)

/-- A negative zero is only read from a literal with an exponent in a string. -/
theorem exists_mark_of_ofJson?
    {document : Json}
    {d : Decimal}
    (read : ofJson? document = some d)
    (signed : ¬ d.IsUnsigned) :
    ∃ literal, document = .string literal ∧ HasMark literal.toList := by
  cases document with
  | string literal => exact ⟨literal, rfl, hasMark_of_ofLiteral? read signed⟩
  | number value =>
      cases value with
      | integer value =>
          have parts : ofParts? (decide (value < 0)) value.natAbs 0 = some d := read
          rw [ofParts?] at parts
          split at parts
          next bounds =>
            obtain rfl := Option.some.inj parts
            apply absurd _ signed
            intro zero
            have noDigits : value.natAbs = 0 := zero
            have notNegative : ¬ value < 0 := by omega
            exact decide_eq_false notNegative
          next outOfBounds => cases parts
      | real value =>
          exact absurd (hasMark_of_ofLiteral? read signed) (not_hasMark_shortestText value)
  | _ => cases read

end Decimal

/-! ## Decimals -/

/-- The decimal of a leaf, if it is one. -/
def Leaf.decimals : Leaf -> List Decimal
  | decimal value => [value]
  | _ => []

/-- The decimals in an observation. -/
def Observation.decimals : Observation -> List Decimal
  | const value => [value]
  | observe _ => []
  | observeAt _ _ => []
  | add left right => left.decimals ++ right.decimals
  | neg operand => operand.decimals
  | mul left right => left.decimals ++ right.decimals
  | div left right => left.decimals ++ right.decimals

/-- The decimals in an inequality. -/
def Inequality.decimals : Inequality -> List Decimal
  | timeGte _ => []
  | timeLte _ => []
  | lte left right => left.decimals ++ right.decimals

mutual

/-- The decimals in a claim. -/
def Claim.decimals : Claim -> List Decimal
  | .zero => []
  | .one _ => []
  | .give claim => claim.decimals
  | .and first second others =>
      first.decimals ++ second.decimals ++ decimalsOfClaims others
  | .or first second others =>
      first.decimals ++ second.decimals ++ decimalsOfElectables others
  | .cond predicate success failure =>
      predicate.decimals ++ success.decimals ++ failure.decimals
  | .scale factor claim => factor.decimals ++ claim.decimals
  | .whenHolds predicate claim => predicate.decimals ++ claim.decimals
  | .untilHolds predicate claim => predicate.decimals ++ claim.decimals
  | .anytime predicate electable => predicate.decimals ++ electable.decimals
termination_by structural claim => claim

/-- The decimals in an alternative. -/
def Electable.decimals : Electable -> List Decimal
  | .mk _ claim => claim.decimals
termination_by structural electable => electable

/-- The decimals in claims. -/
def decimalsOfClaims : List Claim -> List Decimal
  | [] => []
  | claim :: rest => claim.decimals ++ decimalsOfClaims rest
termination_by structural claims => claims

/-- The decimals in alternatives. -/
def decimalsOfElectables : List Electable -> List Decimal
  | [] => []
  | electable :: rest => electable.decimals ++ decimalsOfElectables rest
termination_by structural electables => electables

end

mutual

/-- The decimals in a tree. -/
def Tree.decimals : Tree -> List Decimal
  | ⟨_, _, _, children, _, value⟩ =>
      value.toList.flatMap Leaf.decimals ++ decimalsOfTrees children
termination_by structural tree => tree

/-- The decimals in trees. -/
def decimalsOfTrees : List Tree -> List Decimal
  | [] => []
  | tree :: rest => tree.decimals ++ decimalsOfTrees rest
termination_by structural trees => trees

end

/-! ## What loses no sign -/

theorem Leaf.unsignZeros_eq_self_iff (leaf : Leaf) :
    leaf.unsignZeros = leaf ↔ ∀ d ∈ leaf.decimals, d.IsUnsigned := by
  cases leaf <;> simp [unsignZeros, decimals, Decimal.unsignZero_eq_self_iff]

theorem Observation.unsignZeros_eq_self_iff (observation : Observation) :
    observation.unsignZeros = observation ↔ ∀ d ∈ observation.decimals, d.IsUnsigned := by
  induction observation with
  | const value => simp [unsignZeros, decimals, Decimal.unsignZero_eq_self_iff]
  | observe key => simp [unsignZeros, decimals]
  | observeAt key date => simp [unsignZeros, decimals]
  | neg operand operandHypothesis => simp [unsignZeros, decimals, operandHypothesis]
  | add left right leftHypothesis rightHypothesis =>
      simp [unsignZeros, decimals, leftHypothesis, rightHypothesis, or_imp, forall_and]
  | mul left right leftHypothesis rightHypothesis =>
      simp [unsignZeros, decimals, leftHypothesis, rightHypothesis, or_imp, forall_and]
  | div left right leftHypothesis rightHypothesis =>
      simp [unsignZeros, decimals, leftHypothesis, rightHypothesis, or_imp, forall_and]

theorem Inequality.unsignZeros_eq_self_iff (inequality : Inequality) :
    inequality.unsignZeros = inequality ↔ ∀ d ∈ inequality.decimals, d.IsUnsigned := by
  cases inequality with
  | timeGte date => simp [unsignZeros, decimals]
  | timeLte date => simp [unsignZeros, decimals]
  | lte left right =>
      simp [unsignZeros, decimals, Observation.unsignZeros_eq_self_iff, or_imp, forall_and]

mutual

/-- A claim loses no sign just if no decimal in it is a negative zero. -/
theorem Claim.unsignZeros_eq_self_iff (claim : Claim) :
    claim.unsignZeros = claim ↔ ∀ d ∈ claim.decimals, d.IsUnsigned := by
  cases claim with
  | zero => simp [Claim.unsignZeros, Claim.decimals]
  | one asset => simp [Claim.unsignZeros, Claim.decimals]
  | give claim =>
      simp [Claim.unsignZeros, Claim.decimals, Claim.unsignZeros_eq_self_iff claim]
  | and first second others =>
      simp [Claim.unsignZeros, Claim.decimals, Claim.unsignZeros_eq_self_iff first,
        Claim.unsignZeros_eq_self_iff second, unsignZerosOfClaims_eq_self_iff others, or_imp,
        forall_and]
  | or first second others =>
      simp [Claim.unsignZeros, Claim.decimals, Electable.unsignZeros_eq_self_iff first,
        Electable.unsignZeros_eq_self_iff second, unsignZerosOfElectables_eq_self_iff others,
        or_imp, forall_and]
  | cond predicate success failure =>
      simp [Claim.unsignZeros, Claim.decimals, Inequality.unsignZeros_eq_self_iff,
        Claim.unsignZeros_eq_self_iff success, Claim.unsignZeros_eq_self_iff failure, or_imp,
        forall_and]
  | scale factor claim =>
      simp [Claim.unsignZeros, Claim.decimals, Observation.unsignZeros_eq_self_iff,
        Claim.unsignZeros_eq_self_iff claim, or_imp, forall_and]
  | whenHolds predicate claim =>
      simp [Claim.unsignZeros, Claim.decimals, Inequality.unsignZeros_eq_self_iff,
        Claim.unsignZeros_eq_self_iff claim, or_imp, forall_and]
  | untilHolds predicate claim =>
      simp [Claim.unsignZeros, Claim.decimals, Inequality.unsignZeros_eq_self_iff,
        Claim.unsignZeros_eq_self_iff claim, or_imp, forall_and]
  | anytime predicate electable =>
      simp [Claim.unsignZeros, Claim.decimals, Inequality.unsignZeros_eq_self_iff,
        Electable.unsignZeros_eq_self_iff electable, or_imp, forall_and]
termination_by structural claim

theorem Electable.unsignZeros_eq_self_iff (electable : Electable) :
    electable.unsignZeros = electable ↔ ∀ d ∈ electable.decimals, d.IsUnsigned := by
  cases electable with
  | mk label claim =>
      simp [Electable.unsignZeros, Electable.decimals, Claim.unsignZeros_eq_self_iff claim]
termination_by structural electable

theorem unsignZerosOfClaims_eq_self_iff (claims : List Claim) :
    unsignZerosOfClaims claims = claims ↔ ∀ d ∈ decimalsOfClaims claims, d.IsUnsigned := by
  cases claims with
  | nil => simp [unsignZerosOfClaims, decimalsOfClaims]
  | cons claim rest =>
      simp [unsignZerosOfClaims, decimalsOfClaims, Claim.unsignZeros_eq_self_iff claim,
        unsignZerosOfClaims_eq_self_iff rest, or_imp, forall_and]
termination_by structural claims

theorem unsignZerosOfElectables_eq_self_iff (electables : List Electable) :
    unsignZerosOfElectables electables = electables ↔
      ∀ d ∈ decimalsOfElectables electables, d.IsUnsigned := by
  cases electables with
  | nil => simp [unsignZerosOfElectables, decimalsOfElectables]
  | cons electable rest =>
      simp [unsignZerosOfElectables, decimalsOfElectables,
        Electable.unsignZeros_eq_self_iff electable,
        unsignZerosOfElectables_eq_self_iff rest, or_imp, forall_and]
termination_by structural electables

end

mutual

/-- A tree loses no sign just if no decimal in it is a negative zero. -/
theorem Tree.unsignZeros_eq_self_iff (tree : Tree) :
    tree.unsignZeros = tree ↔ ∀ d ∈ tree.decimals, d.IsUnsigned := by
  rcases tree with ⟨id, tag, type, children, text, _ | leaf⟩ <;>
    simp [Tree.unsignZeros, Tree.decimals, unsignZerosOfTrees_eq_self_iff children,
      Leaf.unsignZeros_eq_self_iff, or_imp, forall_and, and_comm]
termination_by structural tree

theorem unsignZerosOfTrees_eq_self_iff (trees : List Tree) :
    unsignZerosOfTrees trees = trees ↔ ∀ d ∈ decimalsOfTrees trees, d.IsUnsigned := by
  cases trees with
  | nil => simp [unsignZerosOfTrees, decimalsOfTrees]
  | cons tree rest =>
      simp [unsignZerosOfTrees, decimalsOfTrees, Tree.unsignZeros_eq_self_iff tree,
        unsignZerosOfTrees_eq_self_iff rest, or_imp, forall_and]
termination_by structural trees

end

/-! ## What becomes of the decimals -/

theorem Leaf.decimals_unsignZeros (leaf : Leaf) :
    leaf.unsignZeros.decimals = leaf.decimals.map Decimal.unsignZero := by
  cases leaf <;> rfl

theorem Observation.decimals_unsignZeros (observation : Observation) :
    observation.unsignZeros.decimals = observation.decimals.map Decimal.unsignZero := by
  induction observation with
  | const value => rfl
  | observe key => rfl
  | observeAt key date => rfl
  | neg operand operandHypothesis => exact operandHypothesis
  | add left right leftHypothesis rightHypothesis =>
      simp [unsignZeros, decimals, leftHypothesis, rightHypothesis]
  | mul left right leftHypothesis rightHypothesis =>
      simp [unsignZeros, decimals, leftHypothesis, rightHypothesis]
  | div left right leftHypothesis rightHypothesis =>
      simp [unsignZeros, decimals, leftHypothesis, rightHypothesis]

theorem Inequality.decimals_unsignZeros (inequality : Inequality) :
    inequality.unsignZeros.decimals = inequality.decimals.map Decimal.unsignZero := by
  cases inequality with
  | timeGte date => rfl
  | timeLte date => rfl
  | lte left right => simp [unsignZeros, decimals, Observation.decimals_unsignZeros]

mutual

/-- The decimals in a claim lose their signs with it, and keep their scales. -/
theorem Claim.decimals_unsignZeros (claim : Claim) :
    claim.unsignZeros.decimals = claim.decimals.map Decimal.unsignZero := by
  cases claim with
  | zero => rfl
  | one asset => rfl
  | give claim => exact Claim.decimals_unsignZeros claim
  | and first second others =>
      simp [Claim.unsignZeros, Claim.decimals, Claim.decimals_unsignZeros first,
        Claim.decimals_unsignZeros second, decimalsOfClaims_unsignZeros others]
  | or first second others =>
      simp [Claim.unsignZeros, Claim.decimals, Electable.decimals_unsignZeros first,
        Electable.decimals_unsignZeros second, decimalsOfElectables_unsignZeros others]
  | cond predicate success failure =>
      simp [Claim.unsignZeros, Claim.decimals, Inequality.decimals_unsignZeros,
        Claim.decimals_unsignZeros success, Claim.decimals_unsignZeros failure]
  | scale factor claim =>
      simp [Claim.unsignZeros, Claim.decimals, Observation.decimals_unsignZeros,
        Claim.decimals_unsignZeros claim]
  | whenHolds predicate claim =>
      simp [Claim.unsignZeros, Claim.decimals, Inequality.decimals_unsignZeros,
        Claim.decimals_unsignZeros claim]
  | untilHolds predicate claim =>
      simp [Claim.unsignZeros, Claim.decimals, Inequality.decimals_unsignZeros,
        Claim.decimals_unsignZeros claim]
  | anytime predicate electable =>
      simp [Claim.unsignZeros, Claim.decimals, Inequality.decimals_unsignZeros,
        Electable.decimals_unsignZeros electable]
termination_by structural claim

theorem Electable.decimals_unsignZeros (electable : Electable) :
    electable.unsignZeros.decimals = electable.decimals.map Decimal.unsignZero := by
  cases electable with
  | mk label claim => exact Claim.decimals_unsignZeros claim
termination_by structural electable

theorem decimalsOfClaims_unsignZeros (claims : List Claim) :
    decimalsOfClaims (unsignZerosOfClaims claims) =
      (decimalsOfClaims claims).map Decimal.unsignZero := by
  cases claims with
  | nil => rfl
  | cons claim rest =>
      simp [unsignZerosOfClaims, decimalsOfClaims, Claim.decimals_unsignZeros claim,
        decimalsOfClaims_unsignZeros rest]
termination_by structural claims

theorem decimalsOfElectables_unsignZeros (electables : List Electable) :
    decimalsOfElectables (unsignZerosOfElectables electables) =
      (decimalsOfElectables electables).map Decimal.unsignZero := by
  cases electables with
  | nil => rfl
  | cons electable rest =>
      simp [unsignZerosOfElectables, decimalsOfElectables,
        Electable.decimals_unsignZeros electable, decimalsOfElectables_unsignZeros rest]
termination_by structural electables

end

mutual

/-- The decimals in a tree lose their signs with it, and keep their scales. -/
theorem Tree.decimals_unsignZeros (tree : Tree) :
    tree.unsignZeros.decimals = tree.decimals.map Decimal.unsignZero := by
  rcases tree with ⟨id, tag, type, children, text, _ | leaf⟩ <;>
    simp [Tree.unsignZeros, Tree.decimals, decimalsOfTrees_unsignZeros children,
      Leaf.decimals_unsignZeros]
termination_by structural tree

theorem decimalsOfTrees_unsignZeros (trees : List Tree) :
    decimalsOfTrees (unsignZerosOfTrees trees) =
      (decimalsOfTrees trees).map Decimal.unsignZero := by
  cases trees with
  | nil => rfl
  | cons tree rest =>
      simp [unsignZerosOfTrees, decimalsOfTrees, Tree.decimals_unsignZeros tree,
        decimalsOfTrees_unsignZeros rest]
termination_by structural trees

end

/-! ## What is written -/

theorem Json.tagged_inj
    {tag other : String}
    {payload content : Json} :
    tagged tag payload = tagged other content ↔ tag = other ∧ payload = content := by
  simp [tagged]

/-- The sign of a negative zero is written. -/
theorem Decimal.toJson_unsignZero_eq_iff (d : Decimal) :
    d.unsignZero.toJson = d.toJson ↔ d.unsignZero = d := by
  constructor
  · intro same
    have sameText : d.unsignZero.toChars = d.toChars := by
      simpa [toJson, text, String.ofList_inj] using same
    rw [unsignZero_eq_self_iff]
    intro zero
    cases signed : d.negative with
    | false => rfl
    | true =>
        have noSign : d.unsignZero.toChars = d.toChars.tail := by
          simp [toChars, unsignZero, signed, zero]
        rw [noSign] at sameText
        have lengths := congrArg List.length sameText
        simp [toChars, signed] at lengths
  · intro same
    rw [same]

theorem Leaf.toJson_unsignZeros_eq_iff (leaf : Leaf) :
    leaf.unsignZeros.toJson = leaf.toJson ↔ leaf.unsignZeros = leaf := by
  cases leaf <;> simp [unsignZeros, toJson, Decimal.toJson_unsignZero_eq_iff]

theorem Observation.toJson_unsignZeros_eq_iff (term : Observation) :
    term.unsignZeros.toJson = term.toJson ↔ term.unsignZeros = term := by
  induction term with
  | const value =>
      simp [unsignZeros, toJson, Json.tagged_inj, Decimal.toJson_unsignZero_eq_iff]
  | observe key => simp [unsignZeros]
  | observeAt key date => simp [unsignZeros]
  | neg operand operandHypothesis =>
      simp [unsignZeros, toJson, Json.tagged_inj, operandHypothesis]
  | add left right leftHypothesis rightHypothesis =>
      simp [unsignZeros, toJson, Json.tagged_inj, leftHypothesis, rightHypothesis]
  | mul left right leftHypothesis rightHypothesis =>
      simp [unsignZeros, toJson, Json.tagged_inj, leftHypothesis, rightHypothesis]
  | div left right leftHypothesis rightHypothesis =>
      simp [unsignZeros, toJson, Json.tagged_inj, leftHypothesis, rightHypothesis]

theorem Inequality.toJson_unsignZeros_eq_iff (term : Inequality) :
    term.unsignZeros.toJson = term.toJson ↔ term.unsignZeros = term := by
  cases term with
  | timeGte date => simp [unsignZeros]
  | timeLte date => simp [unsignZeros]
  | lte left right =>
      simp [unsignZeros, toJson, Json.tagged_inj, Observation.toJson_unsignZeros_eq_iff]

mutual

/-- A claim is written alike without the signs of its zeros just if there are none. -/
theorem Claim.toJson_unsignZeros_eq_iff (term : Claim) :
    term.unsignZeros.toJson = term.toJson ↔ term.unsignZeros = term := by
  cases term with
  | zero => simp [Claim.unsignZeros]
  | one asset => simp [Claim.unsignZeros]
  | give claim =>
      simp [Claim.unsignZeros, Claim.toJson, Json.tagged_inj,
        Claim.toJson_unsignZeros_eq_iff claim]
  | and first second others =>
      simp [Claim.unsignZeros, Claim.toJson, Json.tagged_inj,
        Claim.toJson_unsignZeros_eq_iff first, Claim.toJson_unsignZeros_eq_iff second,
        claimsToJson_unsignZeros_eq_iff others]
  | or first second others =>
      simp [Claim.unsignZeros, Claim.toJson, Json.tagged_inj,
        Electable.toJson_unsignZeros_eq_iff first, Electable.toJson_unsignZeros_eq_iff second,
        electablesToJson_unsignZeros_eq_iff others]
  | cond predicate success failure =>
      simp [Claim.unsignZeros, Claim.toJson, Json.tagged_inj,
        Inequality.toJson_unsignZeros_eq_iff, Claim.toJson_unsignZeros_eq_iff success,
        Claim.toJson_unsignZeros_eq_iff failure, and_comm, and_left_comm,
        and_assoc]
  | scale factor claim =>
      simp [Claim.unsignZeros, Claim.toJson, Json.tagged_inj,
        Observation.toJson_unsignZeros_eq_iff, Claim.toJson_unsignZeros_eq_iff claim, and_comm]
  | whenHolds predicate claim =>
      simp [Claim.unsignZeros, Claim.toJson, Json.tagged_inj,
        Inequality.toJson_unsignZeros_eq_iff, Claim.toJson_unsignZeros_eq_iff claim, and_comm]
  | untilHolds predicate claim =>
      simp [Claim.unsignZeros, Claim.toJson, Json.tagged_inj,
        Inequality.toJson_unsignZeros_eq_iff, Claim.toJson_unsignZeros_eq_iff claim, and_comm]
  | anytime predicate electable =>
      simp [Claim.unsignZeros, Claim.toJson, Json.tagged_inj,
        Inequality.toJson_unsignZeros_eq_iff, Electable.toJson_unsignZeros_eq_iff electable,
        and_comm]
termination_by structural term

theorem Electable.toJson_unsignZeros_eq_iff (alternative : Electable) :
    alternative.unsignZeros.toJson = alternative.toJson ↔
      alternative.unsignZeros = alternative := by
  cases alternative with
  | mk label claim =>
      simp [Electable.unsignZeros, Electable.toJson, Claim.toJson_unsignZeros_eq_iff claim]
termination_by structural alternative

theorem claimsToJson_unsignZeros_eq_iff (claims : List Claim) :
    claimsToJson (unsignZerosOfClaims claims) = claimsToJson claims ↔
      unsignZerosOfClaims claims = claims := by
  cases claims with
  | nil => simp [unsignZerosOfClaims]
  | cons claim rest =>
      simp [unsignZerosOfClaims, claimsToJson, Claim.toJson_unsignZeros_eq_iff claim,
        claimsToJson_unsignZeros_eq_iff rest]
termination_by structural claims

theorem electablesToJson_unsignZeros_eq_iff (electables : List Electable) :
    electablesToJson (unsignZerosOfElectables electables) = electablesToJson electables ↔
      unsignZerosOfElectables electables = electables := by
  cases electables with
  | nil => simp [unsignZerosOfElectables]
  | cons electable rest =>
      simp [unsignZerosOfElectables, electablesToJson,
        Electable.toJson_unsignZeros_eq_iff electable,
        electablesToJson_unsignZeros_eq_iff rest]
termination_by structural electables

end

mutual

/-- A tree is written alike without the signs of its zeros just if there are none. -/
theorem Tree.toJson_unsignZeros_eq_iff (tree : Tree) :
    tree.unsignZeros.toJson = tree.toJson ↔ tree.unsignZeros = tree := by
  rcases tree with ⟨id, tag, type, children, _ | text, _ | leaf⟩ <;>
    simp [Tree.unsignZeros, Tree.toJson, treesToJson_unsignZeros_eq_iff children,
      Leaf.toJson_unsignZeros_eq_iff]
termination_by structural tree

theorem treesToJson_unsignZeros_eq_iff (trees : List Tree) :
    treesToJson (unsignZerosOfTrees trees) = treesToJson trees ↔
      unsignZerosOfTrees trees = trees := by
  cases trees with
  | nil => simp [unsignZerosOfTrees]
  | cons tree rest =>
      simp [unsignZerosOfTrees, treesToJson, Tree.toJson_unsignZeros_eq_iff tree,
        treesToJson_unsignZeros_eq_iff rest]
termination_by structural trees

end
end ContingentClaims
