import ContingentClaims.Binary64.Shortest
import ContingentClaims.Json.Basic
import ContingentClaims.Text.Digits
import ContingentClaims.Text.Hex

/-!
# Writing JSON

Two layouts of a JSON value: `compact` on one line without blanks, and `pretty`
with one item or field to a line, indented by two blanks a level. Fields are
written in the order in which the object holds them.
-/

namespace ContingentClaims
namespace Json

/-! ## Strings and numbers -/

/-- A character of a string as it is written between the quotes. -/
def escape (c : Char) : List Char :=
  if c = '"' then ['\\', '"']
  else if c = '\\' then ['\\', '\\']
  else if c = '\x08' then ['\\', 'b']
  else if c = '\x0c' then ['\\', 'f']
  else if c = '\n' then ['\\', 'n']
  else if c = '\r' then ['\\', 'r']
  else if c = '\t' then ['\\', 't']
  else if c.toNat < 0x20 then
    ['\\', 'u', '0', '0', Hex.ofDigit (c.toNat / 16), Hex.ofDigit (c.toNat % 16)]
  else [c]

/-- A string in quotes. -/
def quote (text : String) : List Char :=
  '"' :: text.toList.flatMap escape ++ ['"']

/-- The literal of a positive real number from its shortest digits and the power
of ten that they count. It always has a point or an exponent: an exponent if the
leading digit stands beyond the sixteenth whole place or the fifth fraction
place, and a point otherwise. -/
def realDigits
    (digits : Nat)
    (exponent : Int) : List Char :=
  let text := Digits.write digits
  let point : Int := text.length + exponent
  if 0 ≤ exponent && point ≤ 16 then
    Binary64.positional digits exponent ++ ['.', '0']
  else if exponent < 0 && -5 < point && point ≤ 16 then
    Binary64.positional digits exponent
  else
    let power := point - 1
    let mark := if power < 0 then '-' :: Digits.write (-power).toNat
      else Digits.write power.toNat
    match text with
    | [single] => single :: 'e' :: mark
    | first :: rest => first :: '.' :: rest ++ 'e' :: mark
    | [] => []

/-- The literal of a number. -/
def Number.literal : Number -> List Char
  | .integer value =>
      if 0 ≤ value then Digits.write value.toNat else '-' :: Digits.write (-value).toNat
  | .real value =>
      let bits := value.toBits
      let magnitude := Binary64.Magnitude.ofBits bits
      let digits :=
        if magnitude.significand = 0 then
          ['0', '.', '0']
        else
          let (digits, exponent) := magnitude.shortest
          realDigits digits exponent
      if bits.toNat < 0x8000000000000000 then digits else '-' :: digits

/-! ## Layouts -/

mutual

/-- The one-line layout of a value. -/
def compactChars : Json -> List Char
  | .null => ['n', 'u', 'l', 'l']
  | .bool true => ['t', 'r', 'u', 'e']
  | .bool false => ['f', 'a', 'l', 's', 'e']
  | .number value => value.literal
  | .string text => quote text
  | .array [] => ['[', ']']
  | .array (item :: rest) => '[' :: compactChars item ++ compactItems rest
  | .object [] => ['{', '}']
  | .object ((name, value) :: rest) =>
      '{' :: quote name ++ ':' :: compactChars value ++ compactFields rest
termination_by structural value => value

/-- The items of an array after its first, and its end. -/
def compactItems : List Json -> List Char
  | [] => [']']
  | item :: rest => ',' :: compactChars item ++ compactItems rest
termination_by structural items => items

/-- The fields of an object after its first, and its end. -/
def compactFields : List (String × Json) -> List Char
  | [] => ['}']
  | (name, value) :: rest =>
      ',' :: quote name ++ ':' :: compactChars value ++ compactFields rest
termination_by structural fields => fields

end

/-- A line break and the indentation of a level. -/
def newline (level : Nat) : List Char :=
  '\n' :: List.replicate (2 * level) ' '

mutual

/-- The indented layout of a value at a level. -/
def prettyChars (level : Nat) : Json -> List Char
  | .null => ['n', 'u', 'l', 'l']
  | .bool true => ['t', 'r', 'u', 'e']
  | .bool false => ['f', 'a', 'l', 's', 'e']
  | .number value => value.literal
  | .string text => quote text
  | .array [] => ['[', ']']
  | .array (item :: rest) =>
      '[' :: newline (level + 1) ++ prettyChars (level + 1) item ++ prettyItems level rest
  | .object [] => ['{', '}']
  | .object ((name, value) :: rest) =>
      '{' :: newline (level + 1) ++ quote name ++ ':' :: ' ' ::
        prettyChars (level + 1) value ++ prettyFields level rest
termination_by structural value => value

/-- The items of an array after its first, and its end. -/
def prettyItems (level : Nat) : List Json -> List Char
  | [] => newline level ++ [']']
  | item :: rest =>
      ',' :: newline (level + 1) ++ prettyChars (level + 1) item ++ prettyItems level rest
termination_by structural items => items

/-- The fields of an object after its first, and its end. -/
def prettyFields (level : Nat) : List (String × Json) -> List Char
  | [] => newline level ++ ['}']
  | (name, value) :: rest =>
      ',' :: newline (level + 1) ++ quote name ++ ':' :: ' ' ::
        prettyChars (level + 1) value ++ prettyFields level rest
termination_by structural fields => fields

end

/-- The one-line text of a value. -/
def compact (value : Json) : String :=
  String.ofList (compactChars value)

/-- The indented text of a value. -/
def pretty (value : Json) : String :=
  String.ofList (prettyChars 0 value)

end Json
end ContingentClaims
