import ContingentClaims.Ids.Source
import ContingentClaims.Text.Hex

/-!
# Random identifiers

Identifiers in the form of random (version 4) UUIDs: 122 pseudo-random bits,
derived from a seed, in lower-case hexadecimal digits grouped by dashes.
-/

namespace ContingentClaims
namespace RandomIds

/-- The mixing function of the generator: a bijection on 64-bit words. -/
def mix (word : UInt64) : UInt64 :=
  let word := (word ^^^ (word >>> 30)) * 0xBF58476D1CE4E5B9
  let word := (word ^^^ (word >>> 27)) * 0x94D049BB133111EB
  word ^^^ (word >>> 31)

/-- The word at a position of the sequence that belongs to a seed. -/
def wordAt
    (seed : UInt64)
    (position : Nat) : UInt64 :=
  mix (seed + UInt64.ofNat (position + 1) * 0x9E3779B97F4A7C15)

/-- The version 4 UUID with the random bits of two words. -/
def uuid (high low : UInt64) : String :=
  let high := high.toNat
  let low := low.toNat
  String.ofList (
    Hex.writeLowest 8 (high / 0x100000000) ++
      '-' :: Hex.writeLowest 4 (high / 0x10000) ++
      '-' :: '4' :: Hex.writeLowest 3 high ++
      '-' :: Hex.writeLowest 4 (0x8000 + low / 0x1000000000000 % 0x4000) ++
      '-' :: Hex.writeLowest 12 low)

/-- Whether a text has the form of a version 4 UUID. -/
def isVersion4 (text : String) : Bool :=
  let chars := text.toList
  chars.length == 36 &&
    (chars.zipIdx.all fun (c, position) =>
      if position == 8 || position == 13 || position == 18 || position == 23 then
        c == '-'
      else if position == 14 then
        c == '4'
      else if position == 19 then
        c == '8' || c == '9' || c == 'a' || c == 'b'
      else
        Hex.isDigit c)

/-- The source of random identifiers that belongs to a seed. -/
def source (seed : UInt64) : IdSource where
  nameAt draws := uuid (wordAt seed (2 * draws)) (wordAt seed (2 * draws + 1))

end RandomIds
end ContingentClaims
