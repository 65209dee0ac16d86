import ContingentClaims.Ids.Sequential
import ContingentClaims.Proofs.Text.Numerals

/-!
# Successive draws

The names that a source hands out next and the source after some draws, one draw at
a time, and the names of a sequence, which are distinct until its counter runs out.
-/

namespace ContingentClaims

/-- Different numbers behind a stem make different texts. -/
theorem Digits.stem_write_inj
    {stem : String}
    {left right : Nat}
    (same : stem ++ String.ofList (write left) = stem ++ String.ofList (write right)) :
    left = right := by
  have chars := congrArg String.toList same
  have sameDigits : write left = write right := by
    simpa using chars
  rw [← value_write left, sameDigits, value_write]

namespace IdSource

/-- The next names, one draw after the other. -/
def names : Nat -> IdSource -> List NodeId
  | 0, _ => []
  | amount + 1, source => source.peek :: names amount (source.skip 1)

/-- The source after some draws. -/
def after : Nat -> IdSource -> IdSource
  | 0, source => source
  | amount + 1, source => after amount (source.skip 1)

@[simp] theorem nameAt_skip
    (source : IdSource)
    (amount : Nat) :
    (source.skip amount).nameAt = source.nameAt := rfl

@[simp] theorem drawn_skip
    (source : IdSource)
    (amount : Nat) :
    (source.skip amount).drawn = source.drawn + amount := rfl

theorem skip_skip
    (source : IdSource)
    (first second : Nat) :
    (source.skip first).skip second = source.skip (first + second) := by
  simp [skip, Nat.add_assoc]

theorem after_eq_skip
    (amount : Nat)
    (source : IdSource) :
    after amount source = source.skip amount := by
  induction amount generalizing source with
  | zero => rfl
  | succ amount amountHypothesis =>
      rw [after, amountHypothesis, skip_skip, Nat.add_comm]

theorem names_eq_upcoming
    (amount : Nat)
    (source : IdSource) :
    names amount source = source.upcoming amount := by
  induction amount generalizing source with
  | zero => rfl
  | succ amount amountHypothesis =>
      rw [names, amountHypothesis]
      simp [upcoming, List.range_succ_eq_map, peek, Function.comp_def, Nat.add_assoc,
        Nat.add_comm 1]

theorem names_add
    (first second : Nat)
    (source : IdSource) :
    names (first + second) source = names first source ++ names second (source.skip first) := by
  induction first generalizing source with
  | zero => simp [names, skip]
  | succ first firstHypothesis =>
      rw [Nat.succ_add, names, firstHypothesis, skip_skip, Nat.add_comm 1, names,
        List.cons_append]

theorem upcoming_add
    (source : IdSource)
    (first second : Nat) :
    source.upcoming (first + second) =
      source.upcoming first ++ (source.skip first).upcoming second := by
  simp only [← names_eq_upcoming, names_add]

theorem mem_names_iff
    (amount : Nat)
    (source : IdSource)
    (name : NodeId) :
    name ∈ names amount source ↔
      ∃ position, source.drawn ≤ position ∧ position < source.drawn + amount ∧
        source.nameAt position = name := by
  rw [names_eq_upcoming, upcoming, List.mem_map]
  constructor
  · rintro ⟨offset, inRange, rfl⟩
    rw [List.mem_range] at inRange
    exact ⟨source.drawn + offset, by omega, by omega, rfl⟩
  · rintro ⟨position, low, high, rfl⟩
    refine ⟨position - source.drawn, ?_, ?_⟩
    · rw [List.mem_range]
      omega
    · rw [Nat.add_sub_cancel' low]

/-- The later source is the earlier one behind at most so many draws. -/
def DrawsAtMost
    (most : Nat)
    (source later : IdSource) : Prop :=
  ∃ amount ≤ most, later = source.skip amount

theorem DrawsAtMost.refl (source : IdSource) : DrawsAtMost 0 source source :=
  ⟨0, Nat.le_refl 0, rfl⟩

theorem DrawsAtMost.mono
    {fewer most : Nat}
    {source later : IdSource}
    (draws : DrawsAtMost fewer source later)
    (atMost : fewer ≤ most) :
    DrawsAtMost most source later := by
  obtain ⟨amount, few, behind⟩ := draws
  exact ⟨amount, Nat.le_trans few atMost, behind⟩

theorem DrawsAtMost.trans
    {first second : Nat}
    {source middle later : IdSource}
    (draws : DrawsAtMost first source middle)
    (continues : DrawsAtMost second middle later) :
    DrawsAtMost (first + second) source later := by
  obtain ⟨amount, few, rfl⟩ := draws
  obtain ⟨further, fewMore, rfl⟩ := continues
  exact ⟨amount + further, Nat.add_le_add few fewMore, skip_skip _ _ _⟩

/-- A source does not overflow if it would not after more draws. -/
theorem DrawsAtMost.overflowed_eq_false
    {most : Nat}
    {source later : IdSource}
    (draws : DrawsAtMost most source later)
    (lasts : (source.skip most).overflowed = false) :
    later.overflowed = false := by
  obtain ⟨amount, few, rfl⟩ := draws
  cases limited : source.limit with
  | none => simp [overflowed, skip, limited]
  | some limit =>
      simp only [overflowed, skip, limited, Option.any_some, decide_eq_false_iff_not] at lasts ⊢
      omega

/-- The names below a position are distinct. -/
def IsDistinctBelow
    (source : IdSource)
    (limit : Nat) : Prop :=
  ∀ i < limit, ∀ j < limit, source.nameAt i = source.nameAt j -> i = j

/-- Names that are drawn below a position up to which they are distinct do not
repeat. -/
theorem nodup_names
    {source : IdSource}
    {limit amount : Nat}
    (distinct : source.IsDistinctBelow limit)
    (room : source.drawn + amount ≤ limit) :
    (names amount source).Nodup := by
  induction amount generalizing source with
  | zero => exact List.nodup_nil
  | succ amount amountHypothesis =>
      rw [names, List.nodup_cons]
      refine ⟨fun repeated => ?_, ?_⟩
      · obtain ⟨position, low, high, same⟩ := (mem_names_iff _ _ _).1 repeated
        rw [drawn_skip] at low high
        have equal := distinct position (by omega) source.drawn (by omega) same
        omega
      · apply amountHypothesis
        · exact distinct
        · rw [drawn_skip]
          omega

theorem nodup_upcoming
    (source : IdSource)
    (injective : Function.Injective source.nameAt)
    (amount : Nat) :
    (source.upcoming amount).Nodup := by
  rw [← names_eq_upcoming]
  exact nodup_names (fun i _ j _ same => injective same) (Nat.le_refl _)

/-- The names that are numbered from zero behind a stem, without end. -/
def numbered (stem : String) : IdSource where
  nameAt draws := stem ++ String.ofList (Digits.write draws)

theorem numbered_injective (stem : String) : Function.Injective (numbered stem).nameAt :=
  fun _ _ same => Digits.stem_write_inj same

end IdSource

/-! ## Computations that draw -/

namespace Fresh

/-- A computation that moves on in the source without exchanging its names. -/
def KeepsNames
    {α : Type}
    (computation : Fresh α) : Prop :=
  ∀ source, (computation.run source).2.nameAt = source.nameAt

variable {α β : Type}

theorem run_pure
    (value : α)
    (source : IdSource) :
    (pure value : Fresh α).run source = (value, source) := rfl

/-- One computation after the other draws from the source that the first one leaves. -/
theorem run_bind
    (first : Fresh α)
    (next : α -> Fresh β)
    (source : IdSource) :
    (first >>= next).run source = (next (first.run source).1).run (first.run source).2 := rfl

end Fresh

/-! ## Sequences -/

namespace SequentialIds

/-- Different numbers have different names. -/
theorem nameOf_inj
    {stem : String}
    {left right : Nat}
    (same : nameOf stem left = nameOf stem right) :
    left = right :=
  Digits.stem_write_inj same

/-- A sequence does not repeat itself. -/
theorem source_injective (ids : SequentialIds) : Function.Injective ids.source.nameAt :=
  fun _ _ same => Nat.add_left_cancel (nameOf_inj same)

theorem isDistinctBelow_source
    (ids : SequentialIds)
    (limit : Nat) :
    ids.source.IsDistinctBelow limit :=
  fun _ _ _ _ same => ids.source_injective same

/-! ### Counting -/

theorem toNat_successor
    {counter : UInt64}
    (small : counter.toNat + 1 < UInt64.size) :
    (counter + 1).toNat = counter.toNat + 1 := by
  have one : (1 : UInt64).toNat = 1 := rfl
  rw [UInt64.toNat_add, one]
  exact Nat.mod_eq_of_lt small

/-- The counter behind a counter value is the next number. -/
theorem successor?_eq_some_iff (counter behind : UInt64) :
    successor? counter = some behind ↔ behind.toNat = counter.toNat + 1 := by
  rw [successor?]
  split
  next small => rw [Option.some.injEq, ← UInt64.toNat_inj, toNat_successor small, eq_comm]
  next last =>
    have bounded := behind.toNat_lt_size
    simp only [reduceCtorEq, false_iff]
    omega

theorem successor?_eq_none_iff (counter : UInt64) :
    successor? counter = none ↔ UInt64.size ≤ counter.toNat + 1 := by
  simp [successor?]

/-- Behind an identifier that is drawn, the sequence goes on with the names behind this one. -/
theorem upcoming_succ
    {ids later : SequentialIds}
    (sameStem : later.stem = ids.stem)
    (counted : later.next.toNat = ids.next.toNat + 1)
    (amount : Nat) :
    ids.source.upcoming (amount + 1) =
      nameOf ids.stem ids.next.toNat :: later.source.upcoming amount := by
  have rest : (ids.source.skip 1).upcoming amount = later.source.upcoming amount := by
    simp [IdSource.upcoming, IdSource.skip, source, sameStem, counted, Nat.add_assoc]
  rw [Nat.add_comm, IdSource.upcoming_add, rest]
  rfl

/-- As long as there are enough words behind the counter, the identifiers that are drawn are
the next names of the source, and the counter grows by one with each of them. -/
theorem exists_drawAll?_of_room
    {ids : SequentialIds}
    {amount : Nat}
    (room : ids.next.toNat + amount < UInt64.size) :
    ∃ later, ids.drawAll? amount = some (ids.source.upcoming amount, later) ∧
      later.stem = ids.stem ∧ later.next.toNat = ids.next.toNat + amount := by
  induction amount generalizing ids with
  | zero => exact ⟨ids, rfl, rfl, rfl⟩
  | succ amount amountHypothesis =>
      have small : ids.next.toNat + 1 < UInt64.size := by omega
      have counted := toNat_successor small
      obtain ⟨later, drawn, sameStem, advanced⟩ :=
        @amountHypothesis { ids with next := ids.next + 1 } (by rw [counted]; omega)
      refine ⟨later, ?_, sameStem, by rw [advanced, counted]; omega⟩
      have first : successor? ids.next = some (ids.next + 1) := if_pos small
      rw [@upcoming_succ ids { ids with next := ids.next + 1 } rfl counted]
      simp [drawAll?, draw?, first, drawn]

/-- The counter overflows if there are too few. -/
theorem drawAll?_eq_none
    {ids : SequentialIds}
    {amount : Nat}
    (full : UInt64.size ≤ ids.next.toNat + amount) :
    ids.drawAll? amount = none := by
  induction amount generalizing ids with
  | zero => exact absurd full (Nat.not_le_of_lt ids.next.toNat_lt_size)
  | succ amount amountHypothesis =>
      by_cases small : ids.next.toNat + 1 < UInt64.size
      · have first : successor? ids.next = some (ids.next + 1) := if_pos small
        have counted := toNat_successor small
        have rest := @amountHypothesis { ids with next := ids.next + 1 } (by rw [counted]; omega)
        simp [drawAll?, draw?, first, rest]
      · have last : successor? ids.next = none := if_neg small
        simp [drawAll?, draw?, last]

/-- Some identifiers can be drawn exactly if there are so many words behind the counter. -/
theorem isSome_drawAll?_iff
    (ids : SequentialIds)
    (amount : Nat) :
    (ids.drawAll? amount).isSome ↔ ids.next.toNat + amount < UInt64.size := by
  by_cases room : ids.next.toNat + amount < UInt64.size
  · obtain ⟨later, drawn, _⟩ := exists_drawAll?_of_room room
    simp [drawn, room]
  · simp [drawAll?_eq_none (Nat.le_of_not_lt room), room]

/-- The source overflows exactly if drawing one identifier after another does. -/
theorem overflowed_skip_source_iff
    (ids : SequentialIds)
    (amount : Nat) :
    (ids.source.skip amount).overflowed = true ↔ ids.drawAll? amount = none := by
  have small := ids.next.toNat_lt_size
  rw [← Option.not_isSome_iff_eq_none, isSome_drawAll?_iff]
  have reached : (ids.source.skip amount).overflowed =
      decide (UInt64.size - ids.next.toNat ≤ 0 + amount) := rfl
  rw [reached, decide_eq_true_iff]
  omega

theorem overflowed_skip_source_eq_false_iff
    (ids : SequentialIds)
    (amount : Nat) :
    (ids.source.skip amount).overflowed = false ↔ ids.next.toNat + amount < UInt64.size := by
  rw [← isSome_drawAll?_iff, ← Bool.not_eq_true, overflowed_skip_source_iff,
    Option.isSome_iff_ne_none]

end SequentialIds
end ContingentClaims
