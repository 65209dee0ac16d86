/-!
# Decimal digits of natural numbers

Writing a natural number in base ten and reading it back, on lists of
characters. Numerals are the shared ground of identifiers, decimal literals,
calendar dates and JSON numbers.

Reading a written number gives the number back (`value_write`), and writing
never produces a character that is not a digit (`isDigit_of_mem_write`).
-/

namespace ContingentClaims
namespace Digits

/-- An ASCII decimal digit. -/
def isDigit (c : Char) : Bool :=
  48 ≤ c.toNat && c.toNat ≤ 57

/-- The character of a digit below ten. -/
def ofDigit (digit : Nat) : Char :=
  Char.ofNat (48 + digit)

/-- The number that a digit character stands for. -/
def digitValue (c : Char) : Nat :=
  c.toNat - 48

/-- A one followed by a number of zeros. -/
def tenPower (zeros : Nat) : Nat :=
  Nat.pow 10 zeros

/-- The base-ten numeral of a number, without leading zeros. -/
def write (n : Nat) : List Char :=
  if n < 10 then [ofDigit n] else write (n / 10) ++ [ofDigit (n % 10)]

/-- The base-ten numeral of a number, filled up with zeros to a least width. -/
def writePadded
    (width n : Nat) : List Char :=
  let digits := write n
  List.replicate (width - digits.length) '0' ++ digits

/-- The number that a list of digits denotes. -/
def value (digits : List Char) : Nat :=
  digits.foldl (fun total c => 10 * total + digitValue c) 0

/-- Read a list that holds digits only, and at least one. -/
def read? (text : List Char) : Option Nat :=
  if !text.isEmpty && text.all isDigit then some (value text) else none

/-- Read an unsigned number below `bound`: digits, after at most one plus sign. -/
def readBelow?
    (bound : Nat)
    (text : List Char) : Option Nat :=
  let unsigned :=
    match text with
    | '+' :: rest => rest
    | _ => text
  (read? unsigned).filter (· < bound)

@[simp] theorem tenPower_zero : tenPower 0 = 1 := rfl

theorem tenPower_succ (zeros : Nat) :
    tenPower (zeros + 1) = tenPower zeros * 10 := rfl

/-! ## Reading back -/

@[simp] theorem value_nil : value [] = 0 := rfl

@[simp] theorem value_append_singleton
    (digits : List Char)
    (c : Char) :
    value (digits ++ [c]) = 10 * value digits + digitValue c := by
  simp [value]

theorem toNat_ofDigit
    {digit : Nat}
    (small : digit < 10) :
    (ofDigit digit).toNat = 48 + digit := by
  revert digit
  decide

@[simp] theorem digitValue_ofDigit
    {digit : Nat}
    (small : digit < 10) :
    digitValue (ofDigit digit) = digit := by
  simp [digitValue, toNat_ofDigit small]

theorem isDigit_ofDigit
    {digit : Nat}
    (small : digit < 10) :
    isDigit (ofDigit digit) = true := by
  simp [isDigit, toNat_ofDigit small]
  omega

/-- A written number reads back as itself. -/
@[simp] theorem value_write (n : Nat) : value (write n) = n := by
  induction n using Nat.strongRecOn with
  | ind n smaller =>
      rw [write]
      split
      next small => simp [value, small]
      next large =>
          rw [value_append_singleton, smaller (n / 10) (by omega),
            digitValue_ofDigit (by omega)]
          omega

theorem write_ne_nil (n : Nat) : write n ≠ [] := by
  rw [write]
  split <;> simp

/-- A numeral holds digits only. -/
theorem isDigit_of_mem_write
    {n : Nat}
    {c : Char}
    (present : c ∈ write n) :
    isDigit c = true := by
  induction n using Nat.strongRecOn with
  | ind n smaller =>
      rw [write] at present
      split at present
      next small =>
          obtain rfl := List.mem_singleton.1 present
          exact isDigit_ofDigit small
      next large =>
          rcases List.mem_append.1 present with front | last
          · exact smaller (n / 10) (by omega) front
          · obtain rfl := List.mem_singleton.1 last
            exact isDigit_ofDigit (by omega)

/-- Reading accepts every numeral. -/
@[simp] theorem read?_write (n : Nat) : read? (write n) = some n := by
  have allDigits : (write n).all isDigit = true :=
    List.all_eq_true.2 fun _ present => isDigit_of_mem_write present
  have filled : (write n).isEmpty = false := by
    simp [write_ne_nil]
  simp [read?, allDigits, filled]

end Digits
end ContingentClaims
