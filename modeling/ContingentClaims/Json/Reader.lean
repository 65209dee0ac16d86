import ContingentClaims.Json.Token

/-!
# Reading JSON

The syntactic level of JSON: a list of tokens is read from left to right with a
stack of the arrays and objects that are still open. Of two fields of one name
the later value wins. A text that nests deeper than `Json.maxDepth` is refused.
-/

namespace ContingentClaims
namespace Json

/-- The greatest number of arrays and objects that may be open at once. -/
def maxDepth : Nat := 127

/-- An array or object that is still open, with the parts read so far. -/
inductive Frame
  /-- An array; its items are in reverse order. -/
  | array (reversed : List Json)
  /-- An object and the name of the field whose value comes next. -/
  | object (fields : List (String × Json)) (name : String)

/-- What may come next. -/
inductive Reader
  /-- A value. -/
  | anyValue (stack : List Frame)
  /-- The first item of an array just opened, or its end. -/
  | firstItem (stack : List Frame)
  /-- The first field of an object just opened, or its end. -/
  | firstField (stack : List Frame)
  /-- A field name of an object. -/
  | field (fields : List (String × Json)) (stack : List Frame)
  /-- The colon after a field name. -/
  | colon (fields : List (String × Json)) (name : String) (stack : List Frame)
  /-- A comma, or the end of the innermost array. -/
  | moreItems (reversed : List Json) (stack : List Frame)
  /-- A comma, or the end of the innermost object. -/
  | moreFields (fields : List (String × Json)) (stack : List Frame)
  /-- Nothing: the text is one finished value. -/
  | finished (value : Json)

namespace Reader

/-- Hand a finished value to the innermost open array or object. -/
def deliver
    (value : Json) : List Frame -> Reader
  | [] => .finished value
  | .array reversed :: stack => .moreItems (value :: reversed) stack
  | .object fields name :: stack => .moreFields (setField name value fields) stack

/-- Read the first token of a value. -/
def begin?
    (stack : List Frame) : Token -> Option Reader
  | .null => some (deliver .null stack)
  | .bool value => some (deliver (.bool value) stack)
  | .number value => some (deliver (.number value) stack)
  | .string value => some (deliver (.string value) stack)
  | .openArray => if stack.length < maxDepth then some (.firstItem stack) else none
  | .openObject => if stack.length < maxDepth then some (.firstField stack) else none
  | _ => none

/-- Read one token. -/
def step? : Reader -> Token -> Option Reader
  | .anyValue stack, token => begin? stack token
  | .firstItem stack, .closeArray => some (deliver (.array []) stack)
  | .firstItem stack, token => begin? (.array [] :: stack) token
  | .firstField stack, .closeObject => some (deliver (.object []) stack)
  | .firstField stack, .string name => some (.colon [] name stack)
  | .field fields stack, .string name => some (.colon fields name stack)
  | .colon fields name stack, .colon => some (.anyValue (.object fields name :: stack))
  | .moreItems reversed stack, .comma => some (.anyValue (.array reversed :: stack))
  | .moreItems reversed stack, .closeArray =>
      some (deliver (.array reversed.reverse) stack)
  | .moreFields fields stack, .comma => some (.field fields stack)
  | .moreFields fields stack, .closeObject => some (deliver (.object fields) stack)
  | _, _ => none

/-- The value, if one is complete. -/
def result? : Reader -> Option Json
  | .finished value => some value
  | _ => none

end Reader

/-- The value that a list of tokens spells. -/
def ofTokens? (tokens : List Token) : Option Json :=
  (tokens.foldlM Reader.step? (.anyValue [])).bind Reader.result?

/-- Read a text as one JSON value. -/
def parse? (text : String) : Option Json :=
  (Token.scan? text.toList).bind ofTokens?

end Json
end ContingentClaims
