import ContingentClaims.Binary64.Shortest
import ContingentClaims.Decimal.Basic
import ContingentClaims.Json.Basic

/-!
# Decimal literals

Two notations denote decimals. A *plain* literal is an optional sign, digits and
at most one point; underscores may separate digits. A *scientific* literal is a
plain one followed by `e` or `E` and an exponent of at most 28.

A fraction is read digit by digit while the number stays within bounds. The
first digit that no longer fits rounds the number, away from zero from five on;
the digits behind it do not count. A plain zero has no sign. A negative number
whose exponent takes all of its digits away becomes a zero that keeps the minus.
-/

namespace ContingentClaims
namespace Decimal

/-! ## Plain literals -/

/-- Add one to the last place of a mantissa. A mantissa that leaves its bounds
gives up one fraction digit, if it has one. -/
def roundUp?
    (mantissa scale : Nat) : Option (Nat × Nat) :=
  if mantissa + 1 < mantissaBound then
    some (mantissa + 1, scale)
  else if scale = 0 then
    none
  else
    some ((mantissa + 5) / 10, scale - 1)

/-- The bound of short mantissas: what 64 bits hold together with one more digit,
less some room. -/
def shortBound : Nat := (UInt64.size - 1) / 10 - 255

/-- Whether an underscore takes the place of the rounding digit, as a zero: behind
the last place of a number that is short without that place. -/
def endsAtUnderscore (mantissa scale : Nat) : Bool :=
  scale == maxScale && decide (mantissa / 10 < shortBound)

/-- Append the digits of a fraction to a mantissa as long as they fit. -/
def appendFraction?
    (mantissa scale : Nat) : List Char -> Option (Nat × Nat)
  | [] => some (mantissa, scale)
  | c :: rest =>
      if c = '_' then
        if endsAtUnderscore mantissa scale then some (mantissa, scale)
        else appendFraction? mantissa scale rest
      else
        let digit := Digits.digitValue c
        let next := 10 * mantissa + digit
        if scale < maxScale && decide (next < mantissaBound) then
          appendFraction? next (scale + 1) rest
        else if 5 ≤ digit then
          roundUp? mantissa scale
        else
          some (mantissa, scale)

/-- Split off a leading sign; the flag tells whether it is a minus. -/
def splitSign : List Char -> Bool × List Char
  | '-' :: rest => (true, rest)
  | '+' :: rest => (false, rest)
  | text => (false, text)

/-- Digits and underscores only. -/
def isGrouped (text : List Char) : Bool :=
  text.all fun c => Digits.isDigit c || c == '_'

/-- What stands before and after the point of an unsigned plain literal: digits
and underscores. Fails on any other character, on a second point, on an underscore
before the first digit, and if there is no digit at all. -/
def splitPoint? (body : List Char) : Option (List Char × List Char) :=
  let whole := body.takeWhile (· != '.')
  let fraction := (body.dropWhile (· != '.')).drop 1
  match whole ++ fraction with
  | [] => none
  | first :: rest =>
      if Digits.isDigit first && isGrouped rest then some (whole, fraction) else none

/-- Read a plain literal. -/
def plain? (text : List Char) : Option Decimal := do
  let (negative, body) := splitSign text
  let (whole, fraction) <- splitPoint? body
  let start := Digits.value (whole.filter Digits.isDigit)
  if start < mantissaBound then
    let (mantissa, scale) <- appendFraction? start 0 fraction
    ofParts? (negative && mantissa != 0) mantissa scale
  else
    none

/-! ## Scientific literals -/

/-- Drop the last `places` digits of a mantissa, a half being rounded up. -/
def dropPlaces (mantissa places : Nat) : Nat :=
  if places = 0 then mantissa
  else (mantissa / Digits.tenPower (places - 1) + 5) / 10

/-- Divide by a power of ten. Digits that do not fit behind the last fraction
place are rounded off. -/
def shiftDown?
    (base : Decimal)
    (power : Nat) : Option Decimal :=
  if maxScale < power then
    none
  else if base.scale + power ≤ maxScale then
    ofParts? base.negative base.mantissa (base.scale + power)
  else
    let kept := maxScale - power
    ofParts? base.negative (dropPlaces base.mantissa (base.scale - kept)) maxScale

/-- Multiply by a power of ten. Fraction digits turn into whole digits; a result
without fraction digits is a whole number of scale zero. -/
def shiftUp?
    (base : Decimal)
    (power : Nat) : Option Decimal :=
  if power ≤ base.scale then
    ofParts? base.negative base.mantissa (base.scale - power)
  else if maxScale < power then
    none
  else
    ofParts? base.negative (base.mantissa * Digits.tenPower (power - base.scale)) 0

/-- The greatest number of an exponent field, plus one. -/
def exponentBound : Nat := UInt32.size

/-- Read a scientific literal. -/
def scientific? (text : List Char) : Option Decimal := do
  let isMark := fun (c : Char) => c == 'e' || c == 'E'
  let base <- plain? (text.takeWhile (!isMark ·))
  match text.dropWhile (!isMark ·) with
  | [] => none
  | _ :: '-' :: exponent => base.shiftDown? (<- Digits.readBelow? exponentBound exponent)
  | _ :: exponent => base.shiftUp? (<- Digits.readBelow? exponentBound exponent)

/-! ## Documents -/

/-- Read a literal in plain or else in scientific notation. -/
def ofLiteral? (text : List Char) : Option Decimal :=
  (plain? text).or (scientific? text)

/-- The decimal of a JSON value: a literal in a string, or a number. A number
that is no 64-bit integer is read from its shortest decimal text. -/
def ofJson? : Json -> Option Decimal
  | .string literal => ofLiteral? literal.toList
  | .number (.integer value) => ofParts? (value < 0) value.natAbs 0
  | .number (.real value) => ofLiteral? (Binary64.shortestText value)
  | _ => none

/-- A decimal is a string in a document. -/
def toJson (d : Decimal) : Json :=
  .string d.text

end Decimal
end ContingentClaims
