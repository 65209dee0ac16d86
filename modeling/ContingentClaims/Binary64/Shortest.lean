import ContingentClaims.Text.Digits

/-!
# Shortest decimal text of a binary floating-point number

A finite binary64 number is written with the fewest decimal digits that still
denote it and no other, and among those with the digits nearest to it. The text
is positional: it has no exponent, however large or small the number is.

Everything is exact arithmetic on natural numbers: a number is `m · 2^q`, the
reals that round to it form an interval around it, and for one, two, … digits
the two neighbours of the number on that decimal grid are tested.
-/

namespace ContingentClaims
namespace Binary64

/-- A nonnegative rational number. -/
structure Ratio where
  num : Nat
  den : Nat

namespace Ratio

/-- Multiply by a power of two or of ten, the exponent being of either sign. -/
def scale
    (value : Ratio)
    (base : Nat)
    (exponent : Int) : Ratio :=
  if 0 ≤ exponent then
    ⟨value.num * Nat.pow base exponent.toNat, value.den⟩
  else
    ⟨value.num, value.den * Nat.pow base (-exponent).toNat⟩

/-- Whether one number is less than the other. -/
def lt (left right : Ratio) : Bool :=
  left.num * right.den < right.num * left.den

/-- Whether one number is at most the other. -/
def le (left right : Ratio) : Bool :=
  left.num * right.den ≤ right.num * left.den

/-- The greatest natural number that is not larger. -/
def floor (value : Ratio) : Nat :=
  value.num / value.den

/-- The exponent of the leading decimal digit of a positive number. -/
def leadingExponent (value : Ratio) : Int :=
  let estimate : Int :=
    (Digits.write value.num).length - (Digits.write value.den).length
  if le (scale ⟨1, 1⟩ 10 estimate) value then estimate else estimate - 1

end Ratio

/-- The magnitude `significand · 2^exponent` of a finite number. -/
structure Magnitude where
  significand : Nat
  exponent : Int

namespace Magnitude

/-- The leading bit of a normal number's significand, which is not stored. -/
def hiddenBit : Nat := 0x10000000000000

/-- Decode the exponent and fraction fields of a finite number. -/
def ofBits (bits : UInt64) : Magnitude :=
  let field : Nat := bits.toNat / hiddenBit % 0x800
  let fraction : Nat := bits.toNat % hiddenBit
  if field = 0 then
    ⟨fraction, -1074⟩
  else
    ⟨fraction + hiddenBit, (field : Int) - 1075⟩

/-- The real number denoted. -/
def value (magnitude : Magnitude) : Ratio :=
  Ratio.scale ⟨magnitude.significand, 1⟩ 2 magnitude.exponent

/-- The upper end of the interval of reals that round to the number. -/
def upper (magnitude : Magnitude) : Ratio :=
  Ratio.scale ⟨2 * magnitude.significand + 1, 2⟩ 2 magnitude.exponent

/-- The lower end of that interval. It is nearer at a power of two, where the
spacing of the numbers below is half as wide. -/
def lower (magnitude : Magnitude) : Ratio :=
  if magnitude.significand = hiddenBit && decide (-1074 < magnitude.exponent) then
    Ratio.scale ⟨4 * magnitude.significand - 1, 4⟩ 2 magnitude.exponent
  else
    Ratio.scale ⟨2 * magnitude.significand - 1, 2⟩ 2 magnitude.exponent

/-- Whether a real rounds to the number; the ends of the interval do exactly
for an even significand. -/
def accepts
    (magnitude : Magnitude)
    (candidate : Ratio) : Bool :=
  if magnitude.significand % 2 = 0 then
    Ratio.le magnitude.lower candidate && Ratio.le candidate magnitude.upper
  else
    Ratio.lt magnitude.lower candidate && Ratio.lt candidate magnitude.upper

/-- The neighbour of the number on the grid of multiples of a power of ten that
rounds to it, the nearer one if both do. -/
def onGrid?
    (magnitude : Magnitude)
    (exponent : Int) : Option Nat :=
  let steps := Ratio.scale magnitude.value 10 (-exponent)
  let below := steps.floor
  let fits := fun (n : Nat) => magnitude.accepts (Ratio.scale ⟨n, 1⟩ 10 exponent)
  let nearerAbove := (2 * below + 1) * steps.den ≤ 2 * steps.num
  match fits below, fits (below + 1) with
  | true, true => some (if nearerAbove then below + 1 else below)
  | true, false => some below
  | false, true => some (below + 1)
  | false, false => none

/-- Try grids that get finer one digit at a time. -/
def searchGrid
    (magnitude : Magnitude) :
    (attempts : Nat) -> (exponent : Int) -> Nat × Int
  | 0, exponent => ((Ratio.scale magnitude.value 10 (-exponent)).floor, exponent)
  | attempts + 1, exponent =>
      match magnitude.onGrid? exponent with
      | some digits => (digits, exponent)
      | none => magnitude.searchGrid attempts (exponent - 1)

/-- The shortest digits of a positive number and the power of ten they count. The
first grid is coarser than the number, which may round up to its next power of
ten; so the digits never end in a zero. -/
def shortest (magnitude : Magnitude) : Nat × Int :=
  magnitude.searchGrid 18 (magnitude.value.leadingExponent + 1)

end Magnitude

/-- The positional text of `digits · 10^exponent`. -/
def positional
    (digits : Nat)
    (exponent : Int) : List Char :=
  if 0 ≤ exponent then
    Digits.write digits ++ List.replicate exponent.toNat '0'
  else
    let places := (-exponent).toNat
    Digits.write (digits / Digits.tenPower places) ++
      '.' :: Digits.writePadded places (digits % Digits.tenPower places)

/-- The shortest positional text of a finite number. -/
def shortestText (value : Float) : List Char :=
  let bits := value.toBits
  let magnitude := Magnitude.ofBits bits
  let digits :=
    if magnitude.significand = 0 then
      ['0']
    else
      let (digits, exponent) := magnitude.shortest
      positional digits exponent
  if bits.toNat < 0x8000000000000000 then digits else '-' :: digits

end Binary64
end ContingentClaims
