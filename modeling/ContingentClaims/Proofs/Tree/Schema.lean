import ContingentClaims.Proofs.Ids.Encoding
import ContingentClaims.Tree.Schema

/-!
# Documents of trees and the schema

The document of a tree conforms to the schema exactly if no identifier and no tag of a node
is empty and no date lies before the year zero (`Tree.isNode_toJson_iff`): the sign of such
a year has no place in the form of a date. Decimals conform with either sign.
-/

namespace ContingentClaims

/-! ## Literals -/

namespace Schema

theorem isDigits_iff (text : List Char) :
    isDigits text = true ↔ text ≠ [] ∧ ∀ c ∈ text, Digits.isDigit c = true := by
  simp [isDigits]

theorem isDigits_write (n : Nat) : isDigits (Digits.write n) = true :=
  (isDigits_iff _).2 ⟨Digits.write_ne_nil n, fun _ present => Digits.isDigit_of_mem_write present⟩

theorem isDigits_writePadded (width n : Nat) : isDigits (Digits.writePadded width n) = true :=
  (isDigits_iff _).2
    ⟨Digits.writePadded_ne_nil width n, fun _ present => Digits.isDigit_of_mem_writePadded present⟩

/-- A minus in front of a text without one does not matter. -/
theorem isDecimal_minus
    {first : Char}
    (unsigned : first ≠ '-')
    (rest : List Char) :
    isDecimal ('-' :: first :: rest) = isDecimal (first :: rest) := by
  simp [isDecimal, unsigned]

/-- Digits, possibly with a point and more digits behind them, are a decimal with either
sign. -/
theorem isDecimal_of_digits
    {whole rest : List Char}
    (wholeDigits : isDigits whole = true)
    (ending : rest = [] ∨ ∃ fraction, rest = '.' :: fraction ∧ isDigits fraction = true)
    (negative : Bool) :
    isDecimal (if negative then '-' :: (whole ++ rest) else whole ++ rest) = true := by
  obtain ⟨filled, areDigits⟩ := (isDigits_iff whole).1 wholeDigits
  obtain ⟨first, others, split⟩ := List.exists_cons_of_ne_nil filled
  have notMinus : first ≠ '-' :=
    (Digits.digit_is_plain (areDigits first (by simp [split]))).2.2.1
  have front : (whole ++ rest).takeWhile Digits.isDigit = whole := by
    rw [List.takeWhile_append_of_pos areDigits]
    rcases ending with rfl | ⟨fraction, rfl, _⟩ <;> simp [Digits.isDigit]
  have back : (whole ++ rest).dropWhile Digits.isDigit = rest := by
    rw [List.dropWhile_append_of_pos areDigits]
    rcases ending with rfl | ⟨fraction, rfl, _⟩ <;> simp [Digits.isDigit]
  have signed : isDecimal ('-' :: (whole ++ rest)) = true := by
    simp only [isDecimal, front, back]
    rcases ending with rfl | ⟨fraction, rfl, fractionDigits⟩
    · exact wholeDigits
    · simp [wholeDigits, fractionDigits]
  cases negative with
  | true => exact signed
  | false =>
      rw [split, List.cons_append, isDecimal_minus notMinus] at signed
      rw [if_neg Bool.false_ne_true, split, List.cons_append]
      exact signed

/-- The text of a decimal has the form of one. -/
theorem isDecimal_toChars (d : Decimal) : isDecimal d.toChars = true := by
  rcases d with ⟨negative, mantissa, scale, bounded, places⟩
  cases scale with
  | zero =>
      have written := isDecimal_of_digits (isDigits_write mantissa) (.inl rfl) negative
      rwa [List.append_nil] at written
  | succ scale =>
      exact isDecimal_of_digits (isDigits_write _) (.inr ⟨_, rfl, isDigits_writePadded _ _⟩)
        negative

/-- The ISO form of a date has the form of one just if the year needs no sign. -/
theorem isDate_isoChars_iff (date : Date) : isDate date.isoChars = true ↔ 0 ≤ date.year := by
  have parts := date.iso_parts
  have year := (isDigits_iff _).1 (isDigits_writePadded 4 date.year.natAbs)
  have month := (isDigits_iff _).1 (isDigits_writePadded 2 date.month)
  have day := (isDigits_iff _).1 (isDigits_writePadded 2 date.day)
  rw [Date.isoChars]
  generalize Digits.writePadded 4 date.year.natAbs = years at *
  generalize Digits.writePadded 2 date.month = months at *
  generalize Digits.writePadded 2 date.day = days at *
  match years, months, days, parts with
  | [y1, y2, y3, y4], [m1, m2], [d1, d2], _ =>
     simp only [List.forall_mem_cons] at year month day
     by_cases before : date.year < 0
     · simp [before, isDate]
     · simp [before, isDate, isDigits, year, month, day]
       omega

/-! ## Leaves -/

theorem isAsset_toJson (asset : Asset) : isAsset asset.toJson = true := by
  rcases asset with ⟨id, _ | version⟩ <;>
    simp [Asset.toJson, isAsset, isString, isStringWith]

/-- The document of a leaf conforms unless it is a date before the year zero. -/
theorem isLeaf_toJson_iff (leaf : Leaf) :
    isLeaf leaf.toJson = true ↔ ∀ date, leaf = .date date -> 0 ≤ date.year := by
  cases leaf with
  | asset content => simp [Leaf.toJson, isLeaf, isAsset_toJson]
  | decimal content =>
      simp [Leaf.toJson, isLeaf, isStringWith, Decimal.toJson, Decimal.text, isDecimal_toChars]
  | date content =>
      simp [Leaf.toJson, isLeaf, isStringWith, Date.toJson, Date.iso, isDate_isoChars_iff]
  | key content => simp [Leaf.toJson, isLeaf, isString, isStringWith]

/-! ## Nodes -/

theorem areNodes_iff (items : List Json) :
    areNodes items = true ↔ ∀ item ∈ items, isNode item = true := by
  induction items with
  | nil => simp [areNodes]
  | cons item rest restHypothesis => simp [areNodes, restHypothesis]

@[simp] theorem isTypeName_name (type : NodeType) : isTypeName (.string type.name) = true := by
  simp [isTypeName]

end Schema

namespace Tree

/-- What the schema asks of a node by itself. -/
structure Conforms (node : Tree) : Prop where
  named : node.id ≠ ""
  tagged : node.tag ≠ ""
  dated : ∀ date, node.value = some (.date date) -> 0 ≤ date.year

/-- The document of a tree conforms if the node does and those of its children do. -/
theorem isNode_toJson_iff_children (tree : Tree) :
    Schema.isNode tree.toJson = true ↔
      tree.Conforms ∧ ∀ child ∈ tree.children, Schema.isNode child.toJson = true := by
  rcases tree with ⟨id, tag, type, children, text, value⟩
  have filled (word : String) :
      Schema.isStringWith (!·.isEmpty) (.string word) = true ↔ word ≠ "" := by
    simp [Schema.isStringWith]
  have below : Schema.isNodeArray (.array (treesToJson children)) = true ↔
      ∀ child ∈ children, Schema.isNode child.toJson = true := by
    rw [Schema.isNodeArray, Schema.areNodes_iff, treesToJson_eq_map, List.forall_mem_map]
  have bare : Conforms ⟨id, tag, type, children, text, value⟩ ↔
      id ≠ "" ∧ tag ≠ "" ∧ ∀ leaf, value = some leaf -> Schema.isLeaf leaf.toJson = true := by
    constructor
    · rintro ⟨named, tagged, dated⟩
      refine ⟨named, tagged, fun leaf carried => (Schema.isLeaf_toJson_iff leaf).2 ?_⟩
      rintro date rfl
      exact dated date carried
    · rintro ⟨named, tagged, carried⟩
      refine ⟨named, tagged, fun date dated => ?_⟩
      exact (Schema.isLeaf_toJson_iff _).1 (carried _ dated) date rfl
  rw [bare]
  rcases text with _ | text <;> rcases value with _ | leaf <;>
  · simp [toJson, Schema.isNode, Schema.hasMandatory, Schema.areFields, Schema.isString, filled,
      below]
    tauto

/-- The document of a tree conforms to the schema exactly if every node does. -/
theorem isNode_toJson_iff (tree : Tree) :
    Schema.isNode tree.toJson = true ↔ ∀ node ∈ tree.preorder, node.Conforms := by
  induction tree using childInduction with
  | step tree childHypothesis =>
      rw [isNode_toJson_iff_children, forall_mem_preorder_iff]
      have below := forall₂_congr childHypothesis
      rw [below]

end Tree

/-! ## Written trees -/

namespace Part

/-- A leaf stands in a part: it is the part, or stands in one of the operands. -/
inductive HasLeaf (content : Leaf) : Part -> Prop
  | leaf : HasLeaf content (.leaf content)
  | operand
      {part inner : Part}
      (present : inner ∈ part.drawn)
      (inside : inner.HasLeaf content) :
      HasLeaf content part

/-- No date in a part lies before the year zero. -/
def HasNoNegativeYear (part : Part) : Prop :=
  ∀ date, part.HasLeaf (.date date) -> 0 ≤ date.year

theorem hasNoNegativeYear_iff (part : Part) :
    part.HasNoNegativeYear ↔
      (∀ date, part.value = some (.date date) -> 0 ≤ date.year) ∧
        ∀ operand ∈ part.drawn, operand.HasNoNegativeYear := by
  constructor
  · intro late
    refine ⟨fun date carried => ?_, fun operand present date inside => ?_⟩
    · cases part with
      | leaf content =>
          obtain rfl := Option.some.inj carried
          exact late date .leaf
      | _ => cases carried
    · exact late date (.operand present inside)
  · rintro ⟨own, operands⟩ date stands
    cases stands with
    | leaf => exact own date rfl
    | operand present inside => exact operands _ present date inside

theorem tag_ne_empty (part : Part) : part.tag ≠ "" := by
  have claimTag (tag : ClaimTag) : tag.name ≠ "" := by cases tag <;> decide
  have observationTag (tag : ObservationTag) : tag.name ≠ "" := by cases tag <;> decide
  have inequalityTag (tag : InequalityTag) : tag.name ≠ "" := by cases tag <;> decide
  have leafTag (kind : LeafKind) : kind.tag ≠ "" := by cases kind <;> decide
  cases part with
  | claim term => exact claimTag term.tag
  | electable alternative => exact claimTag alternative.claim.tag
  | observation term => exact observationTag term.tag
  | inequality term => exact inequalityTag term.tag
  | leaf content => exact leafTag content.kind

end Part

theorem forall_mem_iff_of_forall₂
    {α β : Type}
    {front : List α}
    {back : List β}
    {p : α -> Prop}
    {q : β -> Prop}
    (same : List.Forall₂ (fun x y => p x ↔ q y) front back) :
    (∀ x ∈ front, p x) ↔ ∀ y ∈ back, q y := by
  induction same with
  | nil => simp
  | cons head _ tailHypothesis => simp [head, tailHypothesis]

namespace Tree

theorem Encodes.forall_conforms_iff
    {tree : Tree}
    {part : Part}
    (encodes : tree.Encodes part)
    (named : ∀ id ∈ tree.ids, id ≠ "") :
    (∀ node ∈ tree.preorder, node.Conforms) ↔ part.HasNoNegativeYear := by
  induction tree using childInduction generalizing part with
  | step tree childHypothesis =>
      obtain ⟨children, split, operands⟩ := encodes.exists_node
      have listed : tree.children = children := congrArg Tree.children split
      rw [ids_eq] at named
      obtain ⟨ownNamed, belowNamed⟩ := List.forall_mem_cons.1 named
      have own : tree.Conforms ↔ ∀ date, part.value = some (.date date) -> 0 ≤ date.year := by
        rw [← show tree.value = part.value from congrArg Tree.value split]
        refine ⟨Conforms.dated, fun dated => ⟨ownNamed, ?_, dated⟩⟩
        rw [split]
        exact part.tag_ne_empty
      have below : List.Forall₂
          (fun child operand => (∀ node ∈ child.preorder, node.Conforms) ↔
            operand.HasNoNegativeYear) tree.children part.drawn := by
        rw [← listed] at operands
        have present := (List.forall₂_and_left tree.children part.drawn).2
          ⟨fun _ isChild => isChild, operands⟩
        refine present.imp fun child operand both => childHypothesis child both.1 both.2 ?_
        exact fun id inside => belowNamed id (List.mem_flatMap.2 ⟨child, both.1, inside⟩)
      rw [forall_mem_preorder_iff, own, forall_mem_iff_of_forall₂ below,
        ← part.hasNoNegativeYear_iff]

/-- The tree that is written for a part with names of either mode conforms to the schema
exactly if no date in the part lies before the year zero. -/
theorem isNode_toJson_encode_iff
    (part : Part)
    {source : IdSource}
    (moded : source.IsSequential ∨ source.IsRandom) :
    Schema.isNode (part.encode.run source).1.toJson = true ↔ part.HasNoNegativeYear := by
  rw [isNode_toJson_iff]
  refine (part.encodes_encode source).forall_conforms_iff fun id present => ?_
  obtain ⟨position, rfl⟩ := (part.handsOut_encode source).exists_position present
  exact IdSource.nameAt_ne_empty moded position

end Tree
end ContingentClaims
