import ContingentClaims.Binary64.Literal
import ContingentClaims.Json.Basic
import ContingentClaims.Text.Digits
import ContingentClaims.Text.Hex

/-!
# JSON tokens

The lexical level of JSON: punctuation, the three literal names, strings and
numbers. `Token.scan?` splits a text into tokens and drops the blanks between
them; it fails on the first character that starts no token.

A string token holds its text with escapes resolved. An escaped surrogate must
be part of a pair. A number token holds its value: an integer that fits into 64
bits exactly, and any other number as a binary64 number; a number beyond the
largest finite one is refused.
-/

namespace ContingentClaims
namespace Json

/-- A JSON token. -/
inductive Token
  | openObject
  | closeObject
  | openArray
  | closeArray
  | comma
  | colon
  | null
  | bool (value : Bool)
  | number (value : Number)
  | string (value : String)

namespace Token

/-! ## Strings -/

/-- The code unit of four hexadecimal digits. -/
def codeUnit? (a b c d : Char) : Option Nat := do
  let a <- Hex.digitValue? a
  let b <- Hex.digitValue? b
  let c <- Hex.digitValue? c
  let d <- Hex.digitValue? d
  return ((a * 16 + b) * 16 + c) * 16 + d

/-- A code unit that opens a surrogate pair. -/
def isLeadingUnit (unit : Nat) : Bool :=
  0xD800 ≤ unit && unit ≤ 0xDBFF

/-- A code unit that closes a surrogate pair. -/
def isTrailingUnit (unit : Nat) : Bool :=
  0xDC00 ≤ unit && unit ≤ 0xDFFF

/-- The character of a surrogate pair. -/
def joinUnits (leading trailing : Nat) : Char :=
  Char.ofNat (0x10000 + (leading - 0xD800) * 0x400 + (trailing - 0xDC00))

/-- The character that a one-letter escape stands for. -/
def escaped? : Char -> Option Char
  | '"' => some '"'
  | '\\' => some '\\'
  | '/' => some '/'
  | 'b' => some '\x08'
  | 'f' => some '\x0c'
  | 'n' => some '\n'
  | 'r' => some '\r'
  | 't' => some '\t'
  | _ => none

/-- Read the rest of a string after its opening quote: the characters of the
string, in reverse order and after those in `done`, and what follows the
closing quote. -/
def stringBody?
    (done : List Char) : List Char -> Option (List Char × List Char)
  | [] => none
  | '"' :: rest => some (done, rest)
  | '\\' :: 'u' :: a :: b :: c :: d :: rest =>
      match codeUnit? a b c d with
      | none => none
      | some unit =>
          if isLeadingUnit unit then
            match rest with
            | '\\' :: 'u' :: e :: f :: g :: h :: tail =>
                match codeUnit? e f g h with
                | none => none
                | some trailing =>
                    if isTrailingUnit trailing then
                      stringBody? (joinUnits unit trailing :: done) tail
                    else
                      none
            | _ => none
          else if isTrailingUnit unit then
            none
          else
            stringBody? (Char.ofNat unit :: done) rest
  | '\\' :: c :: rest =>
      match escaped? c with
      | none => none
      | some meant => stringBody? (meant :: done) rest
  | c :: rest => if c.toNat < 0x20 then none else stringBody? (c :: done) rest

/-- What follows a string is shorter than the string with its surroundings. -/
theorem length_stringBody?
    {done text read rest : List Char}
    (found : stringBody? done text = some (read, rest)) :
    rest.length < text.length := by
  fun_induction stringBody? done text <;> simp_all <;> omega

/-! ## Numbers -/

/-- Append digits to a significand while it fits into 64 bits: the new
significand and the number of digits left over. -/
def absorb
    (significand : Nat) : List Char -> Nat × Nat
  | [] => (significand, 0)
  | c :: rest =>
      let next := 10 * significand + Digits.digitValue c
      if next < UInt64.size then absorb next rest else (significand, rest.length + 1)

/-- A number literal, taken apart. -/
structure NumberParts where
  negative : Bool
  whole : List Char
  fraction : List Char
  exponent : Option Int

/-- The value of a number literal. -/
def NumberParts.value? (parts : NumberParts) : Option Number :=
  let (whole, dropped) := absorb 0 parts.whole
  if parts.fraction.isEmpty && parts.exponent.isNone && dropped == 0 then
    if !parts.negative then
      some (.integer whole)
    else if whole = 0 || 0x8000000000000000 < whole then
      some (.real (-(whole.toUInt64.toFloat)))
    else
      some (.integer (-whole))
  else
    let (significand, unread) := absorb whole parts.fraction
    let places : Int := (parts.fraction.length - unread : Nat)
    let exponent := (dropped : Int) - places + parts.exponent.getD 0
    (Binary64.ofParts? parts.negative significand.toUInt64 exponent).map .real

/-- Split off leading digits. -/
def spanDigits (text : List Char) : List Char × List Char :=
  (text.takeWhile Digits.isDigit, text.dropWhile Digits.isDigit)

/-- Read the digits of a fraction, if a point follows. -/
def fraction? : List Char -> Option (List Char × List Char)
  | '.' :: rest =>
      let (digits, rest) := spanDigits rest
      if digits.isEmpty then none else some (digits, rest)
  | text => some ([], text)

/-- Read an exponent after its letter: a sign at most, then digits. -/
def exponentBody? (text : List Char) : Option (Int × List Char) :=
  let (negative, text) :=
    match text with
    | '-' :: rest => (true, rest)
    | '+' :: rest => (false, rest)
    | _ => (false, text)
  let (digits, rest) := spanDigits text
  if digits.isEmpty then none
  else
    let magnitude : Int := Digits.value digits
    some (if negative then -magnitude else magnitude, rest)

/-- Read an exponent, if one follows. -/
def exponent? : List Char -> Option (Option Int × List Char)
  | 'e' :: rest => (exponentBody? rest).map fun (value, rest) => (some value, rest)
  | 'E' :: rest => (exponentBody? rest).map fun (value, rest) => (some value, rest)
  | text => some (none, text)

/-- Read the digits of a whole part: a lone zero, or digits that do not start
with a zero. -/
def whole? : List Char -> Option (List Char × List Char)
  | '0' :: rest => some (['0'], rest)
  | text =>
      let (digits, rest) := spanDigits text
      if digits.isEmpty then none else some (digits, rest)

/-- Read a number without its sign. -/
def number?
    (negative : Bool)
    (text : List Char) : Option (Number × List Char) := do
  let (whole, rest) <- whole? text
  let (fraction, rest) <- fraction? rest
  let (exponent, rest) <- exponent? rest
  let value <- NumberParts.value? { negative, whole, fraction, exponent }
  return (value, rest)

/-! ## Scanning -/

/-- Read one token at the start of a text that starts with no blank. -/
def next? : List Char -> Option (Token × List Char)
  | '{' :: rest => some (.openObject, rest)
  | '}' :: rest => some (.closeObject, rest)
  | '[' :: rest => some (.openArray, rest)
  | ']' :: rest => some (.closeArray, rest)
  | ',' :: rest => some (.comma, rest)
  | ':' :: rest => some (.colon, rest)
  | 'n' :: 'u' :: 'l' :: 'l' :: rest => some (.null, rest)
  | 't' :: 'r' :: 'u' :: 'e' :: rest => some (.bool true, rest)
  | 'f' :: 'a' :: 'l' :: 's' :: 'e' :: rest => some (.bool false, rest)
  | '"' :: rest =>
      (stringBody? [] rest).map fun (text, rest) =>
        (.string (String.ofList text.reverse), rest)
  | '-' :: rest => (number? true rest).map fun (value, rest) => (.number value, rest)
  | text => (number? false text).map fun (value, rest) => (.number value, rest)

/-! ### What follows a token is shorter -/

theorem length_spanDigits (text : List Char) :
    (spanDigits text).2.length + (spanDigits text).1.length = text.length := by
  have whole := congrArg List.length
    (List.takeWhile_append_dropWhile (p := Digits.isDigit) (l := text))
  simp only [List.length_append] at whole
  simp only [spanDigits]
  omega

theorem length_whole?
    {text digits rest : List Char}
    (found : whole? text = some (digits, rest)) :
    rest.length < text.length := by
  unfold whole? at found
  split at found
  · simp at found
    simp [found.2.symm]
  · have total := length_spanDigits text
    simp only at found
    split at found
    · simp at found
    · next filled =>
        obtain ⟨rfl, rfl⟩ := Prod.mk.inj (Option.some.inj found)
        have := List.length_pos_iff.2 (by simpa using filled)
        omega

theorem length_fraction?
    {text digits rest : List Char}
    (found : fraction? text = some (digits, rest)) :
    rest.length ≤ text.length := by
  unfold fraction? at found
  split at found
  · next rest' =>
      have total := length_spanDigits rest'
      simp only at found
      split at found
      · simp at found
      · obtain ⟨-, rfl⟩ := Prod.mk.inj (Option.some.inj found)
        simp
        omega
  · obtain ⟨-, rfl⟩ := Prod.mk.inj (Option.some.inj found)
    exact Nat.le_refl _

theorem length_exponentBody?
    {text rest : List Char}
    {exponent : Int}
    (found : exponentBody? text = some (exponent, rest)) :
    rest.length ≤ text.length := by
  unfold exponentBody? at found
  split at found
  next negative unsigned signed =>
  have shorter : unsigned.length ≤ text.length := by
    split at signed <;> obtain ⟨-, rfl⟩ := Prod.mk.inj signed <;> simp
  have total := length_spanDigits unsigned
  simp only at found
  split at found
  · simp at found
  · obtain ⟨-, rfl⟩ := Prod.mk.inj (Option.some.inj found)
    omega

theorem length_exponent?
    {text rest : List Char}
    {exponent : Option Int}
    (found : exponent? text = some (exponent, rest)) :
    rest.length ≤ text.length := by
  unfold exponent? at found
  split at found
  case h_3 =>
    obtain ⟨-, rfl⟩ := Prod.mk.inj (Option.some.inj found)
    exact Nat.le_refl _
  all_goals
    obtain ⟨⟨value, after⟩, body, same⟩ := Option.map_eq_some_iff.1 found
    obtain ⟨-, rfl⟩ := Prod.mk.inj same
    have := length_exponentBody? body
    simp
    omega

theorem length_number?
    {negative : Bool}
    {text rest : List Char}
    {value : Number}
    (found : number? negative text = some (value, rest)) :
    rest.length < text.length := by
  simp only [number?, Option.bind_eq_bind, Option.bind_eq_some_iff, Prod.exists] at found
  obtain ⟨whole, afterWhole, wholeFound, fraction, afterFraction, fractionFound,
    exponent, afterExponent, exponentFound, number, -, same⟩ := found
  obtain ⟨-, rfl⟩ := Prod.mk.inj (Option.some.inj same)
  have := length_whole? wholeFound
  have := length_fraction? fractionFound
  have := length_exponent? exponentFound
  omega

theorem length_next?
    {text rest : List Char}
    {token : Token}
    (found : next? text = some (token, rest)) :
    rest.length < text.length := by
  unfold next? at found
  split at found
  case h_10 after =>
    obtain ⟨⟨read, tail⟩, body, same⟩ := Option.map_eq_some_iff.1 found
    obtain ⟨-, rfl⟩ := Prod.mk.inj same
    have := length_stringBody? body
    simp
    omega
  case h_11 after =>
    obtain ⟨⟨read, tail⟩, body, same⟩ := Option.map_eq_some_iff.1 found
    obtain ⟨-, rfl⟩ := Prod.mk.inj same
    have := length_number? body
    simp
    omega
  case h_12 after =>
    obtain ⟨⟨read, tail⟩, body, same⟩ := Option.map_eq_some_iff.1 found
    obtain ⟨-, rfl⟩ := Prod.mk.inj same
    exact length_number? body
  all_goals
    obtain ⟨-, rfl⟩ := Prod.mk.inj (Option.some.inj found)
    simp
    try omega

/-! ## The token list of a text -/

/-- A blank of JSON. -/
def isSpace (c : Char) : Bool :=
  c == ' ' || c == '\n' || c == '\r' || c == '\t'

/-- The tokens of a text. -/
def scan? (text : List Char) : Option (List Token) :=
  match text with
  | [] => some []
  | c :: rest =>
      if isSpace c then
        scan? rest
      else
        match _found : next? (c :: rest) with
        | none => none
        | some (token, tail) => (scan? tail).map (token :: ·)
  termination_by text.length
  decreasing_by
    · simp
    · exact length_next? _found

end Token
end Json
end ContingentClaims
