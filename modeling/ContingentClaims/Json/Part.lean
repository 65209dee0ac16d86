import ContingentClaims.Json.Basic

/-!
# Parts of documents

Access to the parts of a JSON value by name or position. A part comes with the
fact that it is smaller than the value it was taken from, so readers of nested
documents can recurse on it.

A *record* is written as an object with named fields, or as an array with the
fields in order. A *tagged* value is a record of a name and a payload.
-/

namespace ContingentClaims
namespace Json

/-- A JSON value inside another one. -/
abbrev Part (whole : Json) : Type :=
  { part : Json // sizeOf part < sizeOf whole }

theorem sizeOf_getElem?
    {items : List Json}
    {position : Nat}
    {value : Json}
    (found : items[position]? = some value) :
    sizeOf value < sizeOf items :=
  List.sizeOf_lt_of_mem (List.mem_of_getElem? found)

/-- A field of an object. -/
def named?
    (value : Json)
    (name : String) : Option (Part value) :=
  match value with
  | .object fields =>
      match found : lookup name fields with
      | none => none
      | some part => some ⟨part, by
          have := sizeOf_lookup found
          simp
          omega⟩
  | _ => none

/-- An item of an array. -/
def item?
    (value : Json)
    (position : Nat) : Option (Part value) :=
  match value with
  | .array items =>
      match found : items[position]? with
      | none => none
      | some part => some ⟨part, by
          have := sizeOf_getElem? found
          simp
          omega⟩
  | _ => none

/-- The two items of an array of two. -/
def pair?
    (value : Json) : Option (Part value × Part value) :=
  match value with
  | .array [first, second] => some (⟨first, by simp; omega⟩, ⟨second, by simp; omega⟩)
  | _ => none

/-- The items of an array field of an object; a field that is left out stands
for no items. -/
def items?
    (value : Json)
    (name : String) : Option { items : List Json // sizeOf items < sizeOf value } :=
  match value with
  | .object fields =>
      match found : lookup name fields with
      | none => some ⟨[], by cases fields <;> simp +arith⟩
      | some (.array items) => some ⟨items, by
          have := sizeOf_lookup found
          simp at this
          simp
          omega⟩
      | some _ => none
  | _ => none

/-- A field of a record: by name in an object, by position in an array. -/
def member?
    (value : Json)
    (position : Nat)
    (name : String) : Option (Part value) :=
  (value.named? name).or (value.item? position)

/-- A value that may be a record of so many fields: an object, or an array that
is not longer. -/
def isRecord
    (value : Json)
    (size : Nat) : Bool :=
  match value with
  | .object _ => true
  | .array items => items.length ≤ size
  | _ => false

/-- A name where a choice among names is due: a string, or an object whose only
field has that name and holds null. In a lenient reading the field may also hold
an empty object. -/
def choice?
    (value : Json)
    (lenient : Bool) : Option String :=
  match value with
  | .string name => some name
  | .object [(name, .null)] => some name
  | .object [(name, .object [])] => if lenient then some name else none
  | _ => none

/-- The name of a tagged value. -/
def tag? (value : Json) : Option String :=
  match value with
  | .object fields => (lookup "tag" fields).bind (·.choice? false)
  | .array [tag, _] => tag.choice? false
  | _ => none

/-- The payload of a tagged value. -/
def payload? (value : Json) : Option (Part value) :=
  value.member? 1 "value"

/-- A text that may be left out or null; any other value that is no string is
refused. -/
def optionalText? : Option Json -> Option (Option String)
  | none => some none
  | some .null => some none
  | some (.string text) => some (some text)
  | some _ => none

/-- A mandatory text field of a record. -/
def memberText?
    (value : Json)
    (position : Nat)
    (name : String) : Option String :=
  (value.member? position name).bind (·.val.string?)

/-- An optional text field of a record. -/
def memberOptionalText?
    (value : Json)
    (position : Nat)
    (name : String) : Option (Option String) :=
  optionalText? ((value.member? position name).map (·.val))

/-- The tagged value of a name and a payload. -/
def tagged
    (tag : String)
    (payload : Json) : Json :=
  .object [("tag", .string tag), ("value", payload)]

@[simp] theorem tag?_tagged
    (tag : String)
    (payload : Json) :
    (tagged tag payload).tag? = some tag := rfl

@[simp] theorem payload?_tagged
    (tag : String)
    (payload : Json) :
    (tagged tag payload).payload?.map Subtype.val = some payload := rfl

end Json
end ContingentClaims
