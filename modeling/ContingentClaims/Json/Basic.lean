/-!
# JSON values

The data model of the documents that this library reads and writes. Objects
keep their fields in the order of first appearance; setting a field that is
present replaces its value. Numbers keep apart the integers that fit into 64
bits and all others, which are binary64 numbers.
-/

namespace ContingentClaims

/-- A JSON number. -/
inductive Json.Number
  | integer (value : Int)
  | real (value : Float)

/-- A JSON value. -/
inductive Json
  | null
  | bool (value : Bool)
  | number (value : Json.Number)
  | string (value : String)
  | array (items : List Json)
  | object (fields : List (String × Json))

namespace Json

/-- The JSON number of a natural number. -/
def nat (n : Nat) : Json :=
  .number (.integer n)

/-- The string of an optional text, null when it is absent. -/
def optionalString : Option String -> Json
  | none => .null
  | some text => .string text

/-- The text of a string value. -/
def string? : Json -> Option String
  | .string text => some text
  | _ => none

/-- The natural number of a numeric value below `2^64`. -/
def natural? : Json -> Option Nat
  | .number (.integer value) => if 0 ≤ value then some value.toNat else none
  | _ => none

/-! ## Fields of objects -/

/-- The value of a field in a list of fields. -/
def lookup
    (name : String) : List (String × Json) -> Option Json
  | [] => none
  | (key, value) :: rest => if key = name then some value else lookup name rest

/-- Set a field, in place if it is present and at the end if it is not. -/
def setField
    (name : String)
    (value : Json) : List (String × Json) -> List (String × Json)
  | [] => [(name, value)]
  | (key, old) :: rest =>
      if key = name then (key, value) :: rest
      else (key, old) :: setField name value rest

/-- A field of an object; `none` also when the value is no object. -/
def field?
    (value : Json)
    (name : String) : Option Json :=
  match value with
  | .object fields => lookup name fields
  | _ => none

@[simp] theorem lookup_nil (name : String) : lookup name [] = none := rfl

@[simp] theorem lookup_cons
    (name key : String)
    (value : Json)
    (rest : List (String × Json)) :
    lookup name ((key, value) :: rest) =
      if key = name then some value else lookup name rest := rfl

/-- A field that is set reads back. -/
theorem lookup_setField_self
    (name : String)
    (value : Json)
    (fields : List (String × Json)) :
    lookup name (setField name value fields) = some value := by
  induction fields with
  | nil => simp [setField]
  | cons entry rest restHypothesis =>
      obtain ⟨key, old⟩ := entry
      by_cases same : key = name <;> simp [setField, same, restHypothesis]

/-- Setting a field leaves the others as they are. -/
theorem lookup_setField_of_ne
    {name other : String}
    (different : other ≠ name)
    (value : Json)
    (fields : List (String × Json)) :
    lookup other (setField name value fields) = lookup other fields := by
  induction fields with
  | nil => simp [setField, Ne.symm different]
  | cons entry rest restHypothesis =>
      obtain ⟨key, old⟩ := entry
      by_cases same : key = name
      · simp [setField, same, Ne.symm different]
      · simp [setField, same, restHypothesis]

/-! ## Parts are smaller than wholes -/

theorem sizeOf_lookup
    {name : String}
    {fields : List (String × Json)}
    {value : Json}
    (found : lookup name fields = some value) :
    sizeOf value < sizeOf fields := by
  induction fields with
  | nil => simp at found
  | cons entry rest restHypothesis =>
      obtain ⟨key, old⟩ := entry
      rw [lookup_cons] at found
      split at found
      · obtain rfl := Option.some.inj found
        simp
        omega
      · have smaller := restHypothesis found
        simp
        omega

end Json
end ContingentClaims
