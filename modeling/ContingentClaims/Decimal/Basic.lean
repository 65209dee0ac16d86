import ContingentClaims.Text.Digits

/-!
# Bounded decimal numbers

A decimal number is a sign, a mantissa of 96 bits and a scale of at most 28
fraction digits. The scale is part of the number as it is written, so `1.0` and
`1.00` are two decimals; `==` compares the values and finds them equal. A zero may
carry a sign, which counts for its text alone.
-/

namespace ContingentClaims

/-- The least natural number that is no mantissa: the first one of 97 bits. -/
def Decimal.mantissaBound : Nat := 0x1000000000000000000000000

/-- The greatest number of fraction digits. -/
def Decimal.maxScale : Nat := 28

/-- The decimal `± mantissa / 10 ^ scale`. -/
structure Decimal where
  negative : Bool
  mantissa : Nat
  scale : Nat
  mantissa_lt : mantissa < Decimal.mantissaBound
  scale_le : scale ≤ Decimal.maxScale
  deriving DecidableEq

namespace Decimal

/-- The decimal with the given parts, if they are within bounds. -/
def ofParts?
    (negative : Bool)
    (mantissa scale : Nat) : Option Decimal :=
  if bounds : mantissa < mantissaBound ∧ scale ≤ maxScale then
    some ⟨negative, mantissa, scale, bounds.1, bounds.2⟩
  else
    none

/-- The mantissa with its sign. -/
def signed (d : Decimal) : Int :=
  if d.negative then -(d.mantissa : Int) else d.mantissa

/-- Numeric equality: the mantissas agree after both are brought to one scale. -/
def sameValue (left right : Decimal) : Bool :=
  left.signed * Digits.tenPower right.scale == right.signed * Digits.tenPower left.scale

instance : BEq Decimal where
  beq := sameValue

@[simp] theorem sameValue_self (d : Decimal) : d.sameValue d = true := by
  simp [sameValue]

theorem sameValue_comm
    (left right : Decimal) :
    left.sameValue right = right.sameValue left :=
  Bool.beq_comm

/-- The plain text of a decimal, with as many fraction digits as its scale. -/
def toChars (d : Decimal) : List Char :=
  let digits :=
    if d.scale = 0 then
      Digits.write d.mantissa
    else
      Digits.write (d.mantissa / Digits.tenPower d.scale) ++
        '.' :: Digits.writePadded d.scale (d.mantissa % Digits.tenPower d.scale)
  if d.negative then '-' :: digits else digits

/-- The plain text of a decimal. -/
def text (d : Decimal) : String :=
  String.ofList d.toChars

end Decimal
end ContingentClaims
