import ContingentClaims.Proofs.Text.Numerals
import ContingentClaims.Proofs.Text.Trim
import ContingentClaims.Session.LeafInput

/-!
# Literals that are read back

The text of a decimal and the ISO form of a date are literals of this decimal and
of this date, so every date and every decimal can be typed. A zero with a sign is
the one exception: its text denotes the zero without a sign, which has the same
value.
-/

namespace ContingentClaims

/-! ## Decimals -/

namespace Decimal

/-- Digits behind the point are appended one by one while they fit. -/
theorem appendFraction?_digits
    {digits : List Char}
    {mantissa scale : Nat}
    (areDigits : ∀ c ∈ digits, Digits.isDigit c = true)
    (places : scale + digits.length ≤ maxScale)
    (fits : mantissa * Digits.tenPower digits.length + Digits.value digits < mantissaBound) :
    appendFraction? mantissa scale digits =
      some (mantissa * Digits.tenPower digits.length + Digits.value digits,
        scale + digits.length) := by
  induction digits generalizing mantissa scale with
  | nil => simp [appendFraction?]
  | cons c rest restHypothesis =>
      obtain ⟨isDigit, restDigits⟩ := List.forall_mem_cons.1 areDigits
      obtain ⟨_, _, _, _, notUnderscore⟩ := Digits.digit_is_plain isDigit
      have splitValue : Digits.value (c :: rest) =
          Digits.digitValue c * Digits.tenPower rest.length + Digits.value rest := by
        have appended := Digits.value_append [c] rest
        simpa [Digits.value] using appended
      have total :
          mantissa * Digits.tenPower (c :: rest).length + Digits.value (c :: rest) =
            (10 * mantissa + Digits.digitValue c) * Digits.tenPower rest.length +
              Digits.value rest := by
        rw [splitValue, List.length_cons, Digits.tenPower_succ]
        ring
      rw [List.length_cons] at places
      rw [total] at fits
      have nextFits : 10 * mantissa + Digits.digitValue c < mantissaBound := by
        have grows := Nat.le_mul_of_pos_right (10 * mantissa + Digits.digitValue c)
          (Digits.tenPower_pos rest.length)
        omega
      have room : scale < maxScale := by omega
      rw [appendFraction?, if_neg notUnderscore]
      simp only [room, nextFits, decide_true, Bool.and_self, if_true]
      rw [restHypothesis restDigits (by omega) fits, total, List.length_cons]
      congr 2
      omega

private theorem isGrouped_of_digits
    {text : List Char}
    (areDigits : ∀ c ∈ text, Digits.isDigit c = true) :
    isGrouped text = true := by
  rw [isGrouped, List.all_eq_true]
  intro c present
  simp [areDigits c present]

/-- Digits before a point and digits behind it are told apart. -/
theorem splitPoint?_digits
    {whole fraction : List Char}
    (wholeDigits : ∀ c ∈ whole, Digits.isDigit c = true)
    (fractionDigits : ∀ c ∈ fraction, Digits.isDigit c = true)
    (nonempty : whole ≠ []) :
    splitPoint? (whole ++ '.' :: fraction) = some (whole, fraction) ∧
      splitPoint? whole = some (whole, []) := by
  have noPoint : ∀ c ∈ whole, (c != '.') = true := by
    intro c present
    simpa using (Digits.digit_is_plain (wholeDigits c present)).2.1
  obtain ⟨first, rest, rfl⟩ := List.exists_cons_of_ne_nil nonempty
  obtain ⟨firstDigit, restDigits⟩ := List.forall_mem_cons.1 wholeDigits
  have restGrouped : isGrouped rest = true := isGrouped_of_digits restDigits
  have allGrouped : isGrouped (rest ++ fraction) = true := by
    apply isGrouped_of_digits
    intro c present
    rcases List.mem_append.1 present with inRest | inFraction
    · exact restDigits c inRest
    · exact fractionDigits c inFraction
  constructor
  · rw [splitPoint?, List.takeWhile_append_of_pos noPoint, List.dropWhile_append_of_pos noPoint]
    simp [firstDigit, allGrouped]
  · rw [splitPoint?, List.takeWhile_eq_self_iff.2 noPoint, List.dropWhile_eq_nil_iff.2 noPoint]
    simp [firstDigit, restGrouped]

/-- A plain literal without its sign, which begins with a digit and denotes a mantissa
and a scale. -/
structure Spells
    (body : List Char)
    (mantissa scale : Nat) : Prop where
  starts : ∃ first rest, body = first :: rest ∧ Digits.isDigit first = true
  solid : ∀ c ∈ body, Text.isBlank c = false
  reads : ∃ whole fraction, splitPoint? body = some (whole, fraction) ∧
    Digits.value (whole.filter Digits.isDigit) < mantissaBound ∧
    appendFraction? (Digits.value (whole.filter Digits.isDigit)) 0 fraction =
      some (mantissa, scale)

/-- A whole number is spelled by its numeral. -/
theorem spells_whole
    {mantissa : Nat}
    (bounded : mantissa < mantissaBound) :
    Spells (Digits.write mantissa) mantissa 0 := by
  have areDigits : ∀ c ∈ Digits.write mantissa, Digits.isDigit c = true :=
    fun _ present => Digits.isDigit_of_mem_write present
  have filtered : (Digits.write mantissa).filter Digits.isDigit = Digits.write mantissa :=
    List.filter_eq_self.2 areDigits
  obtain ⟨first, rest, split⟩ := List.exists_cons_of_ne_nil (Digits.write_ne_nil mantissa)
  refine ⟨⟨first, rest, split, areDigits first (by simp [split])⟩, ?_, ?_⟩
  · intro c present
    exact (Digits.digit_is_plain (areDigits c present)).1
  · refine ⟨Digits.write mantissa, [], ?_, ?_, ?_⟩
    · exact (splitPoint?_digits areDigits (List.forall_mem_nil _)
        (Digits.write_ne_nil mantissa)).2
    · rwa [filtered, Digits.value_write]
    · rw [filtered, Digits.value_write]
      rfl

/-- A number with fraction digits is spelled with a point before them. -/
theorem spells_fraction
    {mantissa scale : Nat}
    (bounded : mantissa < mantissaBound)
    (places : scale + 1 ≤ maxScale) :
    Spells
      (Digits.write (mantissa / Digits.tenPower (scale + 1)) ++
        '.' :: Digits.writePadded (scale + 1) (mantissa % Digits.tenPower (scale + 1)))
      mantissa (scale + 1) := by
  have positive : 0 < Digits.tenPower (scale + 1) := Digits.tenPower_pos (scale + 1)
  have small : mantissa % Digits.tenPower (scale + 1) < Digits.tenPower (scale + 1) :=
    Nat.mod_lt mantissa positive
  have recombined :
      mantissa / Digits.tenPower (scale + 1) * Digits.tenPower (scale + 1) +
        mantissa % Digits.tenPower (scale + 1) = mantissa :=
    Nat.div_add_mod' mantissa (Digits.tenPower (scale + 1))
  have wholeBounded : mantissa / Digits.tenPower (scale + 1) < mantissaBound :=
    Nat.lt_of_le_of_lt (Nat.div_le_self mantissa _) bounded
  generalize mantissa / Digits.tenPower (scale + 1) = whole at recombined wholeBounded ⊢
  generalize mantissa % Digits.tenPower (scale + 1) = fraction at small recombined ⊢
  have wholeDigits : ∀ c ∈ Digits.write whole, Digits.isDigit c = true :=
    fun _ present => Digits.isDigit_of_mem_write present
  have fractionDigits : ∀ c ∈ Digits.writePadded (scale + 1) fraction,
      Digits.isDigit c = true :=
    fun _ present => Digits.isDigit_of_mem_writePadded present
  have filtered : (Digits.write whole).filter Digits.isDigit = Digits.write whole :=
    List.filter_eq_self.2 wholeDigits
  have width := Digits.length_writePadded small
  obtain ⟨first, rest, split⟩ := List.exists_cons_of_ne_nil (Digits.write_ne_nil whole)
  refine ⟨?_, ?_, ?_⟩
  · rw [split]
    exact ⟨first, _, rfl, wholeDigits first (by simp [split])⟩
  · intro c present
    rw [List.mem_append, List.mem_cons] at present
    rcases present with inWhole | rfl | inFraction
    · exact (Digits.digit_is_plain (wholeDigits c inWhole)).1
    · decide
    · exact (Digits.digit_is_plain (fractionDigits c inFraction)).1
  · refine ⟨Digits.write whole, Digits.writePadded (scale + 1) fraction, ?_, ?_, ?_⟩
    · exact (splitPoint?_digits wholeDigits fractionDigits (Digits.write_ne_nil whole)).1
    · rwa [filtered, Digits.value_write]
    · rw [filtered, Digits.value_write, appendFraction?_digits fractionDigits (by omega),
        width, Digits.value_writePadded, recombined, Nat.zero_add]
      rwa [width, Digits.value_writePadded, recombined]

/-- The text of a decimal spells it behind its sign. -/
theorem exists_spelling (d : Decimal) :
    ∃ body, d.toChars = (if d.negative then '-' :: body else body) ∧
      Spells body d.mantissa d.scale := by
  rcases d with ⟨negative, mantissa, scale, bounded, places⟩
  cases scale with
  | zero => exact ⟨_, rfl, spells_whole bounded⟩
  | succ scale => exact ⟨_, rfl, spells_fraction bounded places⟩

/-- What is spelled behind a sign is read; a zero loses the sign. -/
theorem plain?_of_spells
    {body : List Char}
    {mantissa scale : Nat}
    (spells : Spells body mantissa scale)
    (negative : Bool) :
    plain? (if negative then '-' :: body else body) =
      ofParts? (negative && mantissa != 0) mantissa scale := by
  obtain ⟨first, rest, split, isDigit⟩ := spells.starts
  obtain ⟨whole, fraction, parts, bounded, appended⟩ := spells.reads
  obtain ⟨_, _, notMinus, notPlus, _⟩ := Digits.digit_is_plain isDigit
  have signed : splitSign (if negative then '-' :: body else body) = (negative, body) := by
    cases negative with
    | true => rfl
    | false =>
        simp only [split, Bool.false_eq_true, if_false]
        unfold splitSign
        split
        next same => exact absurd (List.cons.inj same).1 notMinus
        next same => exact absurd (List.cons.inj same).1 notPlus
        next => rfl
  simp [plain?, signed, parts, bounded, appended]

/-- Without the sign of a zero. -/
def unsignZero (d : Decimal) : Decimal :=
  { d with negative := d.negative && d.mantissa != 0 }

/-- The sign of a zero does not matter to the value. -/
theorem unsignZero_beq (d : Decimal) : (d.unsignZero == d) = true := by
  rcases d with ⟨negative, mantissa, scale, bounded, places⟩
  cases negative with
  | false => exact sameValue_self _
  | true =>
      by_cases zero : mantissa = 0
      · simp [BEq.beq, sameValue, unsignZero, signed, zero]
      · have same : unsignZero ⟨true, mantissa, scale, bounded, places⟩ =
            ⟨true, mantissa, scale, bounded, places⟩ := by
          simp [unsignZero, zero]
        rw [same]
        exact sameValue_self _

/-- The text of a decimal is a literal of it, up to the sign of a zero. -/
theorem ofLiteral?_toChars (d : Decimal) : ofLiteral? d.toChars = some d.unsignZero := by
  obtain ⟨body, written, spells⟩ := d.exists_spelling
  have read : plain? d.toChars = some d.unsignZero := by
    rw [written, plain?_of_spells spells]
    simp [ofParts?, d.mantissa_lt, d.scale_le, unsignZero]
  rw [ofLiteral?, read, Option.some_or]

theorem trimChars_toChars (d : Decimal) : Text.trimChars d.toChars = d.toChars := by
  obtain ⟨body, written, spells⟩ := d.exists_spelling
  apply Text.trimChars_eq_self
  rw [written]
  cases d.negative with
  | false => exact spells.solid
  | true => exact List.forall_mem_cons.2 ⟨by decide, spells.solid⟩

end Decimal

/-! ## Dates -/

namespace Date

theorem daysIn_le (year : Int) (month : Nat) : daysIn year month ≤ 31 := by
  unfold daysIn
  repeat' split
  all_goals omega

private theorem unsigned?_append
    (negative : Bool)
    {year month day : List Char}
    (yearWidth : year.length = 4)
    (monthWidth : month.length = 2)
    (dayWidth : day.length = 2) :
    unsigned? negative (year ++ '-' :: month ++ '-' :: day) = (do
      let year <- Digits.read? year
      let month <- Digits.read? month
      let day <- Digits.read? day
      ofParts? (if negative then -(year : Int) else year) month day) := by
  match year, yearWidth, month, monthWidth, day, dayWidth with
  | [_, _, _, _], _, [_, _], _, [_, _], _ => rfl

/-- The digits and dashes of the ISO form. -/
theorem iso_parts (date : Date) :
    (Digits.writePadded 4 date.year.natAbs).length = 4 ∧
      (Digits.writePadded 2 date.month).length = 2 ∧
      (Digits.writePadded 2 date.day).length = 2 := by
  have yearRange := date.year_range
  have monthRange := date.month_range
  have dayRange := date.day_range
  have days := daysIn_le date.year date.month
  refine ⟨Digits.length_writePadded ?_, Digits.length_writePadded ?_,
    Digits.length_writePadded ?_⟩
  · have bound : date.year.natAbs < 10000 := by omega
    exact bound
  · have bound : date.month < 100 := by omega
    exact bound
  · have bound : date.day < 100 := by omega
    exact bound

/-- The ISO form of a date is read as the date. -/
theorem ofIsoChars?_isoChars (date : Date) : ofIsoChars? date.isoChars = some date := by
  obtain ⟨yearWidth, monthWidth, dayWidth⟩ := date.iso_parts
  have valid := And.intro date.year_range (And.intro date.month_range date.day_range)
  have reads (negative : Bool)
      (same : (if negative then -(date.year.natAbs : Int) else date.year.natAbs) = date.year) :
      unsigned? negative
        (Digits.writePadded 4 date.year.natAbs ++ '-' :: Digits.writePadded 2 date.month ++
          '-' :: Digits.writePadded 2 date.day) = some date := by
    rw [unsigned?_append negative yearWidth monthWidth dayWidth]
    simp only [Digits.read?_writePadded, Option.bind_eq_bind, Option.bind_some, same]
    rw [ofParts?, dif_pos valid]
  unfold isoChars
  split
  next before => exact reads true (by rw [if_pos rfl]; omega)
  next after =>
    obtain ⟨first, rest, split⟩ :=
      List.exists_cons_of_ne_nil (Digits.writePadded_ne_nil 4 date.year.natAbs)
    have present : first ∈ Digits.writePadded 4 date.year.natAbs := by simp [split]
    obtain ⟨_, _, notMinus, notPlus, _⟩ :=
      Digits.digit_is_plain (Digits.isDigit_of_mem_writePadded present)
    have read := reads false (by rw [if_neg Bool.false_ne_true]; omega)
    rw [split] at read ⊢
    unfold ofIsoChars?
    split
    next same => exact absurd (List.cons.inj same).1 notMinus
    next same => exact absurd (List.cons.inj same).1 notPlus
    next => exact read

theorem trimChars_isoChars (date : Date) : Text.trimChars date.isoChars = date.isoChars := by
  have solidPart {width n : Nat} {c : Char} (present : c ∈ Digits.writePadded width n) :
      Text.isBlank c = false :=
    (Digits.digit_is_plain (Digits.isDigit_of_mem_writePadded present)).1
  have solidDay :
      ∀ c ∈ Digits.writePadded 4 date.year.natAbs ++ '-' :: Digits.writePadded 2 date.month ++
        '-' :: Digits.writePadded 2 date.day, Text.isBlank c = false := by
    intro c present
    simp only [List.mem_append, List.mem_cons] at present
    rcases present with (inYear | rfl | inMonth) | rfl | inDay
    · exact solidPart inYear
    · decide
    · exact solidPart inMonth
    · decide
    · exact solidPart inDay
  apply Text.trimChars_eq_self
  unfold isoChars
  split
  · exact List.forall_mem_cons.2 ⟨by decide, solidDay⟩
  · exact solidDay

end Date

/-! ## Leaves -/

/-- A text that can be typed as an asset or a key: it is not empty and has no blanks
at its ends. -/
def Text.IsTrimmed (text : String) : Prop :=
  text ≠ "" ∧ Text.trimChars text.toList = text.toList

namespace Leaf

/-- The leaves that typed input may yield. -/
def IsTyped : Leaf -> Prop
  | asset content => content.version = none ∧ Text.IsTrimmed content.id
  | decimal _ => True
  | date _ => True
  | key content => Text.IsTrimmed content

/-- What typed input yields: a leaf of the kind asked for, and no other text than a
trimmed one. -/
theorem isTyped_of_ofLiteral
    {kind : LeafKind}
    {literal : String}
    {leaf : Leaf}
    (read : ofLiteral kind literal = .ok leaf) :
    leaf.kind = kind ∧ leaf.IsTyped := by
  by_cases empty : (Text.trimChars literal.toList).isEmpty = true
  · simp [ofLiteral, empty] at read
  · have trimmed : Text.IsTrimmed (String.ofList (Text.trimChars literal.toList)) := by
      refine ⟨fun noText => empty ?_, ?_⟩
      · have noChars := congrArg String.toList noText
        rw [String.toList_ofList] at noChars
        simp [noChars]
      · rw [String.toList_ofList, Text.trimChars_trimChars]
    simp only [ofLiteral, empty, Bool.false_eq_true, if_false] at read
    cases kind with
    | decimal =>
        dsimp only at read
        split at read
        · obtain rfl := Except.ok.inj read
          exact ⟨rfl, trivial⟩
        · simp at read
    | date =>
        dsimp only at read
        split at read
        · obtain rfl := Except.ok.inj read
          exact ⟨rfl, trivial⟩
        · simp at read
    | asset =>
        obtain rfl := Except.ok.inj read
        exact ⟨rfl, rfl, trimmed⟩
    | key =>
        obtain rfl := Except.ok.inj read
        exact ⟨rfl, trimmed⟩

theorem ofLiteral_asset
    {id : String}
    (trimmed : Text.IsTrimmed id) :
    ofLiteral .asset id = .ok (.asset { id }) := by
  have filled : id.toList.isEmpty = false := by simp [trimmed.1]
  simp [ofLiteral, trimmed.2, filled]

theorem ofLiteral_key
    {key : String}
    (trimmed : Text.IsTrimmed key) :
    ofLiteral .key key = .ok (.key key) := by
  have filled : key.toList.isEmpty = false := by simp [trimmed.1]
  simp [ofLiteral, trimmed.2, filled]

theorem ofLiteral_decimal (value : Decimal) :
    ofLiteral .decimal value.text = .ok (.decimal value.unsignZero) := by
  have read := value.ofLiteral?_toChars
  have filled : value.toChars.isEmpty = false := by
    cases empty : value.toChars with
    | nil =>
        rw [empty] at read
        simp [Decimal.ofLiteral?, Decimal.plain?, Decimal.splitSign, Decimal.splitPoint?,
          Decimal.scientific?] at read
    | cons first rest => rfl
  simp [ofLiteral, Decimal.text, value.trimChars_toChars, filled, read]

theorem ofLiteral_date (date : Date) :
    ofLiteral .date date.iso = .ok (.date date) := by
  have read := date.ofIsoChars?_isoChars
  have filled : date.isoChars.isEmpty = false := by
    cases empty : date.isoChars with
    | nil => simp [empty, Date.ofIsoChars?, Date.unsigned?] at read
    | cons first rest => rfl
  simp [ofLiteral, Date.iso, date.trimChars_isoChars, filled, read]

end Leaf
end ContingentClaims
