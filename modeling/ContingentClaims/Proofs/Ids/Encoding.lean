import ContingentClaims.Ids.Random
import ContingentClaims.Proofs.Ids.Draws
import ContingentClaims.Proofs.Term.Nesting
import ContingentClaims.Proofs.Tree.Context

/-!
# Identifiers of written trees

The tree that is written for a part carries the names that the source hands out next, in
pre-order (`Part.handsOut_encode`). Names of either mode are not empty: a numbered one ends in
a digit, and a random one has the form of a version 4 UUID (`RandomIds.isVersion4_uuid`).
-/

namespace ContingentClaims

/-! ## Forms of names -/

namespace Hex

theorem isDigit_ofDigit
    {digit : Nat}
    (small : digit < 16) :
    isDigit (ofDigit digit) = true := by
  revert digit
  decide

end Hex

namespace RandomIds

/-- What is made of two random words has the form of a version 4 UUID. -/
theorem isVersion4_uuid (high low : UInt64) : isVersion4 (uuid high low) = true := by
  have digit (n : Nat) : Hex.isDigit (Hex.ofDigit (n % 16)) = true :=
    Hex.isDigit_ofDigit (Nat.mod_lt n (by decide))
  have variants : ∀ digit < 12, 8 ≤ digit ->
      Hex.ofDigit digit = '8' ∨ Hex.ofDigit digit = '9' ∨ Hex.ofDigit digit = 'a' ∨
        Hex.ofDigit digit = 'b' := by
    decide
  have variant := variants
    ((0x8000 + low.toNat / 0x1000000000000 % 0x4000) / 16 / 16 / 16 % 16)
    (by omega) (by omega)
  simp only [isVersion4, uuid, Hex.writeLowest, String.toList_ofList]
  simp [digit]
  simpa [or_assoc] using variant

end RandomIds

namespace IdSource

/-- The names of a numbered sequence. -/
def IsSequential (source : IdSource) : Prop :=
  ∃ ids : SequentialIds, source.nameAt = ids.source.nameAt

/-- Names in the form of random UUIDs. -/
def IsRandom (source : IdSource) : Prop :=
  ∀ position, RandomIds.isVersion4 (source.nameAt position) = true

theorem nameAt_ne_empty
    {source : IdSource}
    (moded : source.IsSequential ∨ source.IsRandom)
    (position : Nat) :
    source.nameAt position ≠ "" := by
  rcases moded with ⟨ids, same⟩ | random
  · rw [same]
    intro empty
    have digits := congrArg String.toList empty
    simp [SequentialIds.source, SequentialIds.nameOf, Digits.write_ne_nil] at digits
  · intro empty
    have form := random position
    rw [empty] at form
    revert form
    decide

end IdSource

theorem RandomIds.isRandom_source (seed : UInt64) : (source seed).IsRandom :=
  fun _ => isVersion4_uuid _ _

namespace IdSource

/-! ## Names in turn -/

/-- Identifiers are the next names of a source, which moves on behind them. -/
def HandsOut
    (source : IdSource)
    (ids : List NodeId)
    (later : IdSource) : Prop :=
  ∃ amount, ids = names amount source ∧ later = source.skip amount

theorem HandsOut.append
    {source middle later : IdSource}
    {front back : List NodeId}
    (first : source.HandsOut front middle)
    (second : middle.HandsOut back later) :
    source.HandsOut (front ++ back) later := by
  obtain ⟨frontAmount, rfl, rfl⟩ := first
  obtain ⟨backAmount, rfl, rfl⟩ := second
  exact ⟨frontAmount + backAmount, (names_add ..).symm, skip_skip ..⟩

theorem HandsOut.cons
    {source later : IdSource}
    {ids : List NodeId}
    (rest : (source.skip 1).HandsOut ids later) :
    source.HandsOut (source.peek :: ids) later :=
  HandsOut.append ⟨1, rfl, rfl⟩ rest

theorem HandsOut.exists_position
    {source later : IdSource}
    {ids : List NodeId}
    {id : NodeId}
    (given : source.HandsOut ids later)
    (present : id ∈ ids) :
    ∃ position, source.nameAt position = id := by
  obtain ⟨amount, rfl, _⟩ := given
  obtain ⟨position, _, _, named⟩ := (mem_names_iff amount source id).1 present
  exact ⟨position, named⟩

end IdSource

/-! ## Written trees -/

namespace Part

theorem handsOut_encodeAll
    {parts : List Part}
    (each : ∀ part ∈ parts, ∀ source : IdSource,
      source.HandsOut (part.encode.run source).1.ids (part.encode.run source).2)
    (source : IdSource) :
    source.HandsOut (Tree.idsOfAll ((encodeAll parts).run source).1)
      ((encodeAll parts).run source).2 := by
  induction parts generalizing source with
  | nil => exact ⟨0, rfl, rfl⟩
  | cons part rest restHypothesis =>
      obtain ⟨first, others⟩ := List.forall_mem_cons.1 each
      have split : Tree.idsOfAll ((encodeAll (part :: rest)).run source).1 =
          (part.encode.run source).1.ids ++
            Tree.idsOfAll ((encodeAll rest).run (part.encode.run source).2).1 := rfl
      rw [split]
      exact (first source).append (restHypothesis others _)

/-- The identifiers in the tree of a part, in pre-order, are those that the source hands out
meanwhile. -/
theorem handsOut_encode
    (part : Part)
    (source : IdSource) :
    source.HandsOut (part.encode.run source).1.ids (part.encode.run source).2 := by
  induction part using drawnInduction generalizing source with
  | step part partHypothesis =>
      rw [encode_eq, Tree.ids_eq]
      exact (handsOut_encodeAll partHypothesis (source.skip 1)).cons

end Part
end ContingentClaims
