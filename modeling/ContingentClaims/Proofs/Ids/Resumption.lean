import ContingentClaims.Proofs.Ids.Draws

/-!
# Resuming a sequence

A sequence that resumes after identifiers in use goes on behind the greatest counter
among them (`resumeAfter?_eq_some_iff`), unless this is the last word. Whatever the stem is,
the identifiers with a counter are exactly the stem in front of the spelling of a number
(`counterOf?_eq_some_iff`), so those that are drawn afterwards are in use nowhere, and
neither the order nor the repetition of the identifiers in use matters.
-/

namespace ContingentClaims

namespace Digits

/-- Every spelling of a number begins with a digit, so it needs no plus sign to be read. -/
theorem readBelow?_write
    {n bound : Nat}
    (small : n < bound) :
    readBelow? bound (write n) = some n := by
  obtain ⟨first, rest, split⟩ := List.exists_cons_of_ne_nil (write_ne_nil n)
  have firstDigit : isDigit first = true := isDigit_of_mem_write (n := n) (by simp [split])
  obtain ⟨_, _, _, notPlus, _⟩ := digit_is_plain firstDigit
  have read : (read? (write n)).filter (· < bound) = some n := by
    simp [read?_write, small]
  rw [split] at read ⊢
  unfold readBelow?
  split
  next same => exact absurd (List.cons.inj same).1 notPlus
  next => exact read

theorem lt_of_readBelow?
    {text : List Char}
    {n bound : Nat}
    (read : readBelow? bound text = some n) :
    n < bound := by
  simpa using (Option.filter_eq_some_iff.1 read).2

end Digits

namespace SequentialIds

/-! ## Names and counters -/

/-- What follows a stem is what was put behind it. -/
theorem afterStem?_eq_some_iff
    (stem text rest : List Char) :
    afterStem? stem text = some rest ↔ text = stem ++ rest := by
  induction stem generalizing text with
  | nil => simp [afterStem?]
  | cons first stem stemHypothesis =>
      cases text with
      | nil => simp [afterStem?]
      | cons c text =>
          by_cases same : first = c
          · simp [afterStem?, same, stemHypothesis]
          · simp [afterStem?, same, Ne.symm same]

/-- The identifiers with a counter are the stem and a spelling of the counter. -/
theorem counterOf?_eq_some_iff
    (stem : String)
    (id : NodeId)
    (counter : UInt64) :
    counterOf? stem id = some counter ↔
      ∃ spelling, id = stem ++ String.ofList spelling ∧
        Digits.readBelow? UInt64.size spelling = some counter.toNat := by
  simp only [counterOf?, Option.map_eq_some_iff, Option.bind_eq_some_iff,
    afterStem?_eq_some_iff]
  constructor
  · rintro ⟨n, ⟨spelling, split, read⟩, rfl⟩
    refine ⟨spelling, ?_, ?_⟩
    · rw [← String.toList_inj, split]
      simp
    · rw [UInt64.toNat_ofNat_of_lt' (Digits.lt_of_readBelow? read), read]
  · rintro ⟨spelling, rfl, read⟩
    exact ⟨counter.toNat, ⟨spelling, by simp, read⟩, by simp⟩

/-- The name of a counter value has this counter. -/
theorem counterOf?_nameOf
    (stem : String)
    (counter : UInt64) :
    counterOf? stem (nameOf stem counter.toNat) = some counter := by
  rw [counterOf?_eq_some_iff]
  exact ⟨Digits.write counter.toNat, rfl, Digits.readBelow?_write counter.toNat_lt⟩

/-! ## The counter after resuming -/

/-- The greater of two counters is bounded if both are. -/
theorem toNat_max_le_iff
    (left right : UInt64)
    (bound : Nat) :
    (max left right).toNat ≤ bound ↔ left.toNat ≤ bound ∧ right.toNat ≤ bound := by
  have chosen : max left right = if left ≤ right then right else left := rfl
  rw [chosen]
  split
  next atMost =>
    rw [UInt64.le_iff_toNat_le] at atMost
    omega
  next above =>
    rw [UInt64.le_iff_toNat_le] at above
    omega

/-- Every counter in use lies below a number. -/
def InUseBelow
    (stem : String)
    (existing : List NodeId)
    (bound : Nat) : Prop :=
  ∀ id ∈ existing, ∀ counter, counterOf? stem id = some counter -> counter.toNat < bound

theorem inUseBelow_cons_iff
    (stem : String)
    (id : NodeId)
    (rest : List NodeId)
    (bound : Nat) :
    InUseBelow stem (id :: rest) bound ↔
      (∀ counter, counterOf? stem id = some counter -> counter.toNat < bound) ∧
        InUseBelow stem rest bound :=
  List.forall_mem_cons

/-- Resuming behind one identifier moves the counter just as far as this one demands. -/
theorem resumesAfterOne
    {ids later : SequentialIds}
    {existing : NodeId}
    (resumed : ids.resumeAfterOne? existing = some later) :
    later.stem = ids.stem ∧
      ∀ bound, later.next.toNat ≤ bound ↔
        ids.next.toNat ≤ bound ∧
          ∀ counter, counterOf? ids.stem existing = some counter -> counter.toNat < bound := by
  rw [resumeAfterOne?] at resumed
  cases known : counterOf? ids.stem existing with
  | none =>
      rw [known, Option.some.injEq] at resumed
      subst resumed
      exact ⟨rfl, by simp⟩
  | some counter =>
      rw [known] at resumed
      obtain ⟨behind, successor, rfl⟩ := Option.map_eq_some_iff.1 resumed
      rw [successor?_eq_some_iff] at successor
      refine ⟨rfl, fun bound => ?_⟩
      simp only [toNat_max_le_iff, successor, Option.some.injEq, forall_eq']
      exact Iff.rfl

theorem resumeAfterOne?_eq_none_iff
    (ids : SequentialIds)
    (existing : NodeId) :
    ids.resumeAfterOne? existing = none ↔
      ∃ counter, counterOf? ids.stem existing = some counter ∧
        UInt64.size ≤ counter.toNat + 1 := by
  rw [resumeAfterOne?]
  cases known : counterOf? ids.stem existing with
  | none => simp
  | some counter => simp [successor?_eq_none_iff]

/-- Resuming moves the counter just as far as the counters in use demand. -/
theorem resumesAfter
    {ids later : SequentialIds}
    {existing : List NodeId}
    (resumed : ids.resumeAfter? existing = some later) :
    later.stem = ids.stem ∧
      ∀ bound, later.next.toNat ≤ bound ↔
        ids.next.toNat ≤ bound ∧ InUseBelow ids.stem existing bound := by
  induction existing generalizing ids with
  | nil =>
      obtain rfl := Option.some.inj resumed
      exact ⟨rfl, by simp [InUseBelow]⟩
  | cons id rest restHypothesis =>
      obtain ⟨first, behindFirst, resumedRest⟩ := Option.bind_eq_some_iff.1 resumed
      obtain ⟨firstStem, firstBounds⟩ := resumesAfterOne behindFirst
      obtain ⟨restStem, restBounds⟩ := restHypothesis resumedRest
      refine ⟨restStem.trans firstStem, fun bound => ?_⟩
      rw [restBounds, firstBounds, firstStem, inUseBelow_cons_iff, and_assoc]

/-- A sequence can resume unless the last word is in use as a counter. -/
theorem isSome_resumeAfter?_iff
    (ids : SequentialIds)
    (existing : List NodeId) :
    (ids.resumeAfter? existing).isSome ↔
      InUseBelow ids.stem existing (UInt64.size - 1) := by
  induction existing generalizing ids with
  | nil => simp [resumeAfter?, InUseBelow]
  | cons id rest restHypothesis =>
      rw [inUseBelow_cons_iff, resumeAfter?]
      cases behindFirst : ids.resumeAfterOne? id with
      | none =>
          obtain ⟨counter, known, last⟩ := (resumeAfterOne?_eq_none_iff ids id).1 behindFirst
          simp only [Option.bind_none, Option.isSome_none, Bool.false_eq_true, false_iff]
          rintro ⟨small, _⟩
          have below := small counter known
          omega
      | some first =>
          have small : ∀ counter, counterOf? ids.stem id = some counter ->
              counter.toNat < UInt64.size - 1 := by
            intro counter known
            by_contra last
            have overflows := (resumeAfterOne?_eq_none_iff ids id).2 ⟨counter, known, by omega⟩
            rw [overflows] at behindFirst
            cases behindFirst
          have sameStem := (resumesAfterOne behindFirst).1
          rw [Option.bind_some, restHypothesis, sameStem]
          exact (and_iff_right small).symm

/-- A sequence resumes at the least counter behind all of those in use. -/
theorem resumeAfter?_eq_some_iff
    (ids later : SequentialIds)
    (existing : List NodeId) :
    ids.resumeAfter? existing = some later ↔
      later.stem = ids.stem ∧
        ∀ bound, later.next.toNat ≤ bound ↔
          ids.next.toNat ≤ bound ∧ InUseBelow ids.stem existing bound := by
  refine ⟨resumesAfter, fun ⟨sameStem, bounds⟩ => ?_⟩
  have small : InUseBelow ids.stem existing (UInt64.size - 1) := by
    have bounded := later.next.toNat_lt_size
    exact ((bounds _).1 (Nat.le_sub_one_of_lt bounded)).2
  obtain ⟨found, resumed⟩ := Option.isSome_iff_exists.1 ((ids.isSome_resumeAfter?_iff _).2 small)
  obtain ⟨foundStem, foundBounds⟩ := resumesAfter resumed
  have sameNext : found.next = later.next := by
    rw [← UInt64.toNat_inj]
    apply Nat.le_antisymm
    · exact (foundBounds _).2 ((bounds _).1 (Nat.le_refl _))
    · exact (bounds _).2 ((foundBounds _).1 (Nat.le_refl _))
  rw [resumed, Option.some.injEq]
  cases found
  cases later
  simp_all

/-- Only the set of the identifiers in use matters. -/
theorem resumeAfter?_congr
    {ids later : SequentialIds}
    {left right : List NodeId}
    (resumed : ids.resumeAfter? left = some later)
    (same : ∀ id, id ∈ right ↔ id ∈ left) :
    ids.resumeAfter? right = some later := by
  rw [resumeAfter?_eq_some_iff] at resumed ⊢
  simpa only [InUseBelow, same] using resumed

/-! ## The names that follow -/

theorem mem_upcoming_source_iff
    (ids : SequentialIds)
    (amount : Nat)
    (name : NodeId) :
    name ∈ ids.source.upcoming amount ↔
      ∃ offset < amount, nameOf ids.stem (ids.next.toNat + offset) = name := by
  simp [IdSource.upcoming, source]

/-- The names that follow those in use are not in use, as long as they have counters. -/
theorem not_mem_of_upcoming
    {ids later : SequentialIds}
    {existing : List NodeId}
    {amount : Nat}
    {id : NodeId}
    (resumed : ids.resumeAfter? existing = some later)
    (room : later.next.toNat + amount ≤ UInt64.size)
    (upcoming : id ∈ later.source.upcoming amount) :
    id ∉ existing := by
  intro inUse
  obtain ⟨offset, below, rfl⟩ := (mem_upcoming_source_iff _ _ _).1 upcoming
  obtain ⟨sameStem, bounds⟩ := resumesAfter resumed
  have counter : (UInt64.ofNat (later.next.toNat + offset)).toNat = later.next.toNat + offset :=
    UInt64.toNat_ofNat_of_lt' (by omega)
  have known := counterOf?_nameOf ids.stem (UInt64.ofNat (later.next.toNat + offset))
  rw [counter] at known
  rw [sameStem] at inUse
  have passed := ((bounds _).1 (Nat.le_refl _)).2 _ inUse _ known
  omega

/-- Unless the last word is in use as a counter, a sequence resumes, in the same way for all
lists of the same identifiers. The identifiers that are drawn then, as long as the counter does
not run out, are distinct, and none of them is in use. -/
theorem upcoming_resumeAfter
    (ids : SequentialIds)
    (existing : List NodeId)
    (small :
      ∀ id ∈ existing, ∀ counter, counterOf? ids.stem id = some counter ->
        counter.toNat ≠ UInt64.size - 1) :
    ∃ later,
      (∀ others, (∀ id, id ∈ others ↔ id ∈ existing) ->
        ids.resumeAfter? others = some later) ∧
      ∀ amount, later.next.toNat + amount < UInt64.size ->
        ∃ names last, later.drawAll? amount = some (names, last) ∧
          names = later.source.upcoming amount ∧ names.Nodup ∧ ∀ id ∈ names, id ∉ existing := by
  have below : InUseBelow ids.stem existing (UInt64.size - 1) := by
    intro id inUse counter known
    have bounded := counter.toNat_lt_size
    have notLast := small id inUse counter known
    omega
  obtain ⟨later, resumed⟩ := Option.isSome_iff_exists.1 ((ids.isSome_resumeAfter?_iff _).2 below)
  refine ⟨later, fun others same => resumeAfter?_congr resumed same, fun amount room => ?_⟩
  obtain ⟨last, drawn, _⟩ := exists_drawAll?_of_room room
  exact ⟨_, last, drawn, rfl, later.source.nodup_upcoming later.source_injective amount,
    fun id upcoming => not_mem_of_upcoming resumed (Nat.le_of_lt room) upcoming⟩

/-- A stem that ends in a digit, with a counter that is spelled with a sign and a zero in
front, and identifiers that have no counter. -/
theorem upcoming_resumeAfter_signed :
    let ids : SequentialIds := { stem := "n1" }
    let existing : List NodeId := ["n12", "n1+07", "n1", "n1x", "n07"]
    let others : List NodeId := ["n1+07", "n07", "n1", "n1+07", "n1x", "n12"]
    (∀ id ∈ existing, ∀ counter, counterOf? ids.stem id = some counter ->
      counter.toNat ≠ UInt64.size - 1) ∧
      ∃ later, ids.resumeAfter? others = some later ∧ later.source.upcoming 2 = ["n18", "n19"] ∧
        ∃ names last, later.drawAll? 2 = some (names, last) ∧ names = ["n18", "n19"] ∧
          names.Nodup ∧ ∀ id ∈ names, id ∉ existing := by
  intro ids existing others
  have small : ∀ id ∈ existing, ∀ counter, counterOf? ids.stem id = some counter ->
      counter.toNat ≠ UInt64.size - 1 := by
    have counters : existing.map (counterOf? ids.stem) = [some 2, some 7, none, none, none] := by
      decide +kernel
    intro id inUse counter known
    have isCounter : some counter ∈ existing.map (counterOf? ids.stem) :=
      known ▸ List.mem_map_of_mem inUse
    rw [counters] at isCounter
    simp only [List.mem_cons, Option.some.injEq, reduceCtorEq, List.not_mem_nil, or_false]
      at isCounter
    rcases isCounter with rfl | rfl <;> decide
  have less : others ⊆ existing := by decide
  have more : existing ⊆ others := by decide
  have same (id : NodeId) : id ∈ others ↔ id ∈ existing :=
    ⟨fun present => less present, fun present => more present⟩
  obtain ⟨later, resumes, draws⟩ := upcoming_resumeAfter ids existing small
  have resumed := resumes others same
  have place : ids.resumeAfter? others = some { stem := "n1", next := 8 } := by decide +kernel
  obtain rfl : { stem := "n1", next := 8 } = later := by
    rw [place] at resumed
    exact Option.some.inj resumed
  have next : ({ stem := "n1", next := 8 } : SequentialIds).source.upcoming 2 =
      ["n18", "n19"] := by
    decide +kernel
  obtain ⟨names, last, drawn, rfl, distinct, fresh⟩ := draws 2 (by decide)
  exact ⟨small, _, resumed, next, _, last, drawn, next, distinct, fresh⟩

end SequentialIds
end ContingentClaims
