import ContingentClaims.Tree.Basic

/-!
# Sources of identifiers

Fresh nodes get their identifiers from a source, which hands out one name after
another. Nothing is assumed about the names: a source may repeat itself. A source
that counts in a word of limited size may overflow. The run in which this happens
has failed, and nothing that is computed in it is ever seen.
-/

namespace ContingentClaims

/-- A sequence of names, of which the first `drawn` are used up. If there is a
limit, the source overflows as soon as so many names are drawn. -/
structure IdSource where
  nameAt : Nat -> NodeId
  drawn : Nat := 0
  limit : Option Nat := none

/-- A computation that may draw identifiers. -/
abbrev Fresh (α : Type) : Type :=
  StateM IdSource α

namespace IdSource

/-- The name that is drawn next. -/
def peek (source : IdSource) : NodeId :=
  source.nameAt source.drawn

/-- The source after `amount` further draws. -/
def skip
    (source : IdSource)
    (amount : Nat) : IdSource :=
  { source with drawn := source.drawn + amount }

/-- The next `amount` names in order. -/
def upcoming
    (source : IdSource)
    (amount : Nat) : List NodeId :=
  (List.range amount).map fun offset => source.nameAt (source.drawn + offset)

/-- Whether the source has overflowed, so that the run has failed. -/
def overflowed (source : IdSource) : Bool :=
  source.limit.any (· ≤ source.drawn)

end IdSource

namespace Fresh

/-- Draw the next identifier. -/
def id : Fresh NodeId :=
  fun source => (source.peek, source.skip 1)

@[simp] theorem run_id (source : IdSource) :
    Fresh.id.run source = (source.peek, source.skip 1) := rfl

end Fresh
end ContingentClaims
