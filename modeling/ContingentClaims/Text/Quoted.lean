import ContingentClaims.Text.Blank
import ContingentClaims.Text.GraphemeBase
import ContingentClaims.Text.Hex

/-!
# Quoted text

Texts in messages are put into double quotes. Quotes and backslashes in them get
a backslash, and characters that would not show are written as escapes.
-/

namespace ContingentClaims
namespace Text

/-- The halfwidth voicing marks of Katakana. They extend the character before them
but take a cell of their own. -/
def isHalfwidthMark (c : Char) : Bool :=
  c == '\uff9e' || c == '\uff9f'

/-- The fillers of Hangul: letters that are not shown. -/
def isHangulFiller (c : Char) : Bool :=
  c == '\u115f' || c == '\u1160' || c == '\u3164' || c == '\uffa0'

/-- A character that shows as itself: a printable ASCII character, or one that has
a shape of its own and is no blank. -/
def isShown (c : Char) : Bool :=
  (0x20 ≤ c.toNat && c.toNat < 0x7F) ||
    ((isGraphemeBase c || isHalfwidthMark c) && !isHangulFiller c && !isBlank c)

/-- A character between the quotes. -/
def quoteChar (c : Char) : List Char :=
  if c = '"' then ['\\', '"']
  else if c = '\\' then ['\\', '\\']
  else if c = '\n' then ['\\', 'n']
  else if c = '\r' then ['\\', 'r']
  else if c = '\t' then ['\\', 't']
  else if c = '\x00' then ['\\', '0']
  else if isShown c then [c]
  else '\\' :: 'u' :: '\x7b' :: Hex.write c.toNat ++ ['\x7d']

/-- A text in double quotes. -/
def quoted (text : String) : String :=
  String.ofList ('"' :: text.toList.flatMap quoteChar ++ ['"'])

end Text
end ContingentClaims
