import ContingentClaims.Proofs.Ids.Resumption

/-!
# Overflow of the counter

The counter of a sequence is a 64-bit word that grows when the sequence resumes behind an
identifier and whenever a name is drawn. It overflows nowhere exactly if every counter in use
leaves room for the names that are drawn (`neverOverflows_iff`). Any counter up to the last
word may be in use, so there need not be room.
-/

namespace ContingentClaims
namespace SequentialIds

/-- The counter does not overflow when a sequence resumes behind identifiers in use, nor while
some names are drawn from it. -/
def NeverOverflows
    (stem : String)
    (existing : List NodeId)
    (draws : Nat) : Prop :=
  ∃ ids, ({ stem } : SequentialIds).resumeAfter? existing = some ids ∧
    (ids.drawAll? draws).isSome

/-- There is room for some names behind every identifier in use. -/
structure HasRoom
    (stem : String)
    (existing : List NodeId)
    (draws : Nat) : Prop where
  fits : draws < UInt64.size
  behind :
    ∀ id ∈ existing, ∀ counter, counterOf? stem id = some counter ->
      counter.toNat + 1 + draws < UInt64.size

theorem HasRoom.mono
    {stem : String}
    {existing : List NodeId}
    {fewer draws : Nat}
    (room : HasRoom stem existing draws)
    (atMost : fewer ≤ draws) :
    HasRoom stem existing fewer where
  fits := Nat.lt_of_le_of_lt atMost room.fits
  behind id present counter counted :=
    Nat.lt_of_le_of_lt (Nat.add_le_add_left atMost _) (room.behind id present counter counted)

/-- There is room for the names behind a resumed sequence exactly if there is behind every
identifier in use. -/
theorem hasRoom_iff_of_resumed
    {stem : String}
    {existing : List NodeId}
    {ids : SequentialIds}
    (resumed : ({ stem } : SequentialIds).resumeAfter? existing = some ids)
    (draws : Nat) :
    HasRoom stem existing draws ↔ ids.next.toNat + draws < UInt64.size := by
  obtain ⟨_, bounds⟩ := resumesAfter resumed
  constructor
  · rintro ⟨fits, behind⟩
    have atMost : ids.next.toNat ≤ UInt64.size - 1 - draws := by
      refine (bounds _).2 ⟨Nat.zero_le _, fun id present counter counted => ?_⟩
      have room := behind id present counter counted
      omega
    omega
  · intro room
    refine ⟨by omega, fun id present counter counted => ?_⟩
    have below := ((bounds _).1 (Nat.le_refl _)).2 id present counter counted
    omega

/-- The counter overflows exactly if some identifier in use leaves too little room. -/
theorem neverOverflows_iff
    (stem : String)
    (existing : List NodeId)
    (draws : Nat) :
    NeverOverflows stem existing draws ↔ HasRoom stem existing draws := by
  constructor
  · rintro ⟨ids, resumed, drawn⟩
    rw [isSome_drawAll?_iff] at drawn
    exact (hasRoom_iff_of_resumed resumed draws).2 drawn
  · intro room
    have small : InUseBelow stem existing (UInt64.size - 1) := by
      intro id present counter counted
      have behind := room.behind id present counter counted
      omega
    obtain ⟨ids, resumed⟩ := Option.isSome_iff_exists.1
      ((isSome_resumeAfter?_iff { stem } existing).2 small)
    refine ⟨ids, resumed, ?_⟩
    rw [isSome_drawAll?_iff]
    exact (hasRoom_iff_of_resumed resumed draws).1 room

end SequentialIds
end ContingentClaims
