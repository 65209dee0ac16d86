import ContingentClaims.Ids.Source
import ContingentClaims.Text.Digits

/-!
# Sequential identifiers

Identifiers made of a fixed stem and a counter: `n0`, `n1`, `n2`, … The counter
is a 64-bit word that stands behind every identifier of the sequence that is in
use. There is no sequence behind the last word: the counter overflows. A sequence
can resume after identifiers that are in use already: it continues behind the
greatest of those that have its form.
-/

namespace ContingentClaims

/-- A sequence of identifiers with a common stem. -/
structure SequentialIds where
  stem : String
  next : UInt64 := 0
  deriving DecidableEq

namespace SequentialIds

/-- The identifier of a number. -/
def nameOf
    (stem : String)
    (number : Nat) : NodeId :=
  stem ++ String.ofList (Digits.write number)

/-- What follows a stem in a text. -/
def afterStem? : (stem text : List Char) -> Option (List Char)
  | [], text => some text
  | s :: stem, c :: text => if s = c then afterStem? stem text else none
  | _ :: _, [] => none

/-- The counter value of an identifier, if it has the form of this sequence. Any
spelling of an unsigned 64-bit number counts. -/
def counterOf?
    (stem : String)
    (id : NodeId) : Option UInt64 :=
  ((afterStem? stem.toList id.toList).bind (Digits.readBelow? UInt64.size)).map
    UInt64.ofNat

/-- The counter behind a counter value, unless it overflows. -/
def successor? (counter : UInt64) : Option UInt64 :=
  if counter.toNat + 1 < UInt64.size then some (counter + 1) else none

/-- Continue behind one identifier, unless the counter overflows. -/
def resumeAfterOne?
    (ids : SequentialIds)
    (existing : NodeId) : Option SequentialIds :=
  match counterOf? ids.stem existing with
  | some counter =>
      (successor? counter).map fun behind => { ids with next := max ids.next behind }
  | none => some ids

/-- Continue behind all identifiers of a list, unless the counter overflows. -/
def resumeAfter?
    (ids : SequentialIds) : List NodeId -> Option SequentialIds
  | [] => some ids
  | existing :: rest => (ids.resumeAfterOne? existing).bind (·.resumeAfter? rest)

/-- Draw an identifier, unless the counter overflows behind it. -/
def draw? (ids : SequentialIds) : Option (NodeId × SequentialIds) :=
  (successor? ids.next).map fun next => (nameOf ids.stem ids.next.toNat, { ids with next })

/-- Draw some identifiers one after another, unless the counter overflows. -/
def drawAll?
    (ids : SequentialIds) : Nat -> Option (List NodeId × SequentialIds)
  | 0 => some ([], ids)
  | amount + 1 => do
      let (name, ids) <- ids.draw?
      let (names, ids) <- ids.drawAll? amount
      return (name :: names, ids)

/-- The source that hands out the sequence. The draws that bring the counter
behind the last word make it overflow. -/
def source (ids : SequentialIds) : IdSource where
  nameAt draws := nameOf ids.stem (ids.next.toNat + draws)
  limit := some (UInt64.size - ids.next.toNat)

end SequentialIds
end ContingentClaims
