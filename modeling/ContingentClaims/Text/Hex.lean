/-!
# Hexadecimal digits

Numbers in base sixteen, written with lower-case letters and read in either
case. Every digit that is written reads back (`digitValue?_ofDigit`).
-/

namespace ContingentClaims
namespace Hex

/-- The lower-case character of a digit below sixteen. -/
def ofDigit (digit : Nat) : Char :=
  if digit < 10 then Char.ofNat (48 + digit) else Char.ofNat (87 + digit)

/-- A digit as it is written: its letters are in lower case. -/
def isDigit (c : Char) : Bool :=
  ('0' ≤ c && c ≤ '9') || ('a' ≤ c && c ≤ 'f')

/-- The value of a digit with a letter of either case. -/
def digitValue? (c : Char) : Option Nat :=
  let code := c.toNat
  if 48 ≤ code && code ≤ 57 then some (code - 48)
  else if 97 ≤ code && code ≤ 102 then some (code - 87)
  else if 65 ≤ code && code ≤ 70 then some (code - 55)
  else none

/-- The numeral of a number, without leading zeros. -/
def write (n : Nat) : List Char :=
  if n < 16 then [ofDigit n] else write (n / 16) ++ [ofDigit (n % 16)]

/-- The lowest `width` digits of a number. -/
def writeLowest : (width n : Nat) -> List Char
  | 0, _ => []
  | width + 1, n => writeLowest width (n / 16) ++ [ofDigit (n % 16)]

theorem digitValue?_ofDigit
    {digit : Nat}
    (small : digit < 16) :
    digitValue? (ofDigit digit) = some digit := by
  revert digit
  decide

@[simp] theorem length_writeLowest (width n : Nat) :
    (writeLowest width n).length = width := by
  induction width generalizing n with
  | zero => rfl
  | succ width shorter => simp [writeLowest, shorter]

end Hex
end ContingentClaims
