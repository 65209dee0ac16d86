/-!
# Binary floating-point numbers from decimal parts

The value of a decimal significand and exponent as a binary64 number, by one
multiplication or division with a power of ten: the significand and the power
are each rounded, and so is their product or quotient. A magnitude beyond the
largest finite number is refused, one below the smallest becomes zero.
-/

namespace ContingentClaims
namespace Binary64

/-- The binary64 number nearest to a power of ten. -/
def powerOfTen (exponent : Nat) : Float :=
  Float.ofScientific 1 false exponent

/-- The largest power of ten that is a finite number. -/
def maxPower : Nat := 308

/-- Divide by a power of ten, in steps when the power itself is not finite. -/
def divideByPower
    (value : Float)
    (exponent : Nat) : Float :=
  if exponent ≤ maxPower then
    value / powerOfTen exponent
  else if value == 0.0 then
    value
  else
    divideByPower (value / powerOfTen maxPower) (exponent - maxPower)
  termination_by exponent
  decreasing_by
    simp only [maxPower] at *
    omega

/-- Multiply by a power of ten; `none` if the result is not finite. -/
def multiplyByPower?
    (value : Float)
    (exponent : Nat) : Option Float :=
  if exponent ≤ maxPower then
    let product := value * powerOfTen exponent
    if product.isInf then none else some product
  else if value == 0.0 then
    some value
  else
    none

/-- The number with the given sign, significand and power of ten. -/
def ofParts?
    (negative : Bool)
    (significand : UInt64)
    (exponent : Int) : Option Float :=
  let magnitude? :=
    if 0 ≤ exponent then
      multiplyByPower? significand.toFloat exponent.toNat
    else
      some (divideByPower significand.toFloat (-exponent).toNat)
  magnitude?.map fun magnitude => if negative then -magnitude else magnitude

end Binary64
end ContingentClaims
