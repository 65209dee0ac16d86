import ContingentClaims.Json.Reader
import ContingentClaims.Proofs.Json.Scanning
import Mathlib.Data.List.Nodup

/-!
# Reading what is written

The reader gets a value back from its tokens if the value does not nest too deeply, and
nothing if it does (`parse?_pretty_line`). The names of the fields of an object must be
distinct, since of two fields of one name only one is kept.
-/

namespace ContingentClaims
namespace Json

/-! ## Depth -/

mutual

/-- The greatest number of arrays and objects around each other in a value. -/
def depth : Json -> Nat
  | .array items => depthOfItems items + 1
  | .object fields => depthOfFields fields + 1
  | _ => 0
termination_by structural value => value

/-- The greatest depth of some values. -/
def depthOfItems : List Json -> Nat
  | [] => 0
  | item :: rest => max item.depth (depthOfItems rest)
termination_by structural items => items

/-- The greatest depth of the values of some fields. -/
def depthOfFields : List (String × Json) -> Nat
  | [] => 0
  | (_, value) :: rest => max value.depth (depthOfFields rest)
termination_by structural fields => fields

end

/-- A new field is appended. -/
theorem setField_of_not_mem
    {name : String}
    {fields : List (String × Json)}
    (absent : name ∉ fields.map (·.1))
    (value : Json) :
    setField name value fields = fields ++ [(name, value)] := by
  induction fields with
  | nil => rfl
  | cons entry rest restHypothesis =>
      obtain ⟨key, old⟩ := entry
      simp only [List.map_cons, List.mem_cons, not_or] at absent
      rw [setField, if_neg (Ne.symm absent.1), restHypothesis absent.2, List.cons_append]

/-! ## Runs of the reader -/

namespace Reader

/-- Read tokens one after the other. -/
def run
    (reader : Reader)
    (tokens : List Token) : Option Reader :=
  tokens.foldlM step? reader

theorem run_cons
    (reader : Reader)
    (token : Token)
    (tokens : List Token) :
    reader.run (token :: tokens) = (reader.step? token).bind (·.run tokens) := by
  rw [run, List.foldlM_cons]
  rfl

/-- The first item of an array is read as any value, since it is not the end of the
array. -/
theorem run_firstItem
    (value : Json)
    (stack : List Frame)
    (rest : List Token) :
    (Reader.firstItem stack).run (value.tokens ++ rest) =
      (Reader.anyValue (.array [] :: stack)).run (value.tokens ++ rest) := by
  match value with
  | .null => rfl
  | .bool _ => rfl
  | .number _ => rfl
  | .string _ => rfl
  | .array [] => rfl
  | .array (_ :: _) => rfl
  | .object [] => rfl
  | .object (_ :: _) => rfl

/-- A value without parts is handed on. -/
theorem run_of_begin?
    {value : Json}
    {token : Token}
    {stack : List Frame}
    (begins : begin? stack token = some (deliver value stack))
    (flat : value.depth = 0)
    (room : stack.length ≤ maxDepth)
    (rest : List Token) :
    (Reader.anyValue stack).run (token :: rest) =
      if value.depth + stack.length ≤ maxDepth then (deliver value stack).run rest else none := by
  rw [run_cons, step?, begins, flat, Nat.zero_add, if_pos room]
  rfl

/-- What is inside an array or object is read if there is room for one more level. -/
theorem run_of_open
    {token : Token}
    {stack : List Frame}
    {opened : Reader}
    {tokens : List Token}
    {outcome : Option Reader}
    {inner : Nat}
    (begins : begin? stack token = if stack.length < maxDepth then some opened else none)
    (inside : stack.length < maxDepth ->
      opened.run tokens = if inner + (stack.length + 1) ≤ maxDepth then outcome else none) :
    (Reader.anyValue stack).run (token :: tokens) =
      if inner + 1 + stack.length ≤ maxDepth then outcome else none := by
  rw [run_cons, step?, begins]
  by_cases room : stack.length < maxDepth
  · rw [if_pos room, Option.bind_some, inside room, Nat.add_assoc, Nat.add_comm 1]
  · rw [if_neg room, Option.bind_none, if_neg (by omega)]

/-- There is room for two things if there is room for the larger one. -/
theorem ite_ite_max
    (first second level : Nat)
    (outcome : Option Reader) :
    (if first + level ≤ maxDepth then
      if second + level ≤ maxDepth then outcome else none
    else none) =
      if max first second + level ≤ maxDepth then outcome else none := by
  by_cases firstFits : first + level ≤ maxDepth
  · by_cases secondFits : second + level ≤ maxDepth
    · rw [if_pos firstFits, if_pos secondFits, if_pos (by omega)]
    · rw [if_pos firstFits, if_neg secondFits, if_neg (by omega)]
  · rw [if_neg firstFits, if_neg (by omega)]

mutual

/-- A value is read from its tokens if it does not nest too deeply where it stands. -/
theorem run_tokens
    (value : Json)
    (plain : value.IsPlain)
    (stack : List Frame)
    (room : stack.length ≤ maxDepth)
    (rest : List Token) :
    (Reader.anyValue stack).run (value.tokens ++ rest) =
      if value.depth + stack.length ≤ maxDepth then (deliver value stack).run rest else none := by
  match value with
  | .null => exact run_of_begin? rfl rfl room rest
  | .bool _ => exact run_of_begin? rfl rfl room rest
  | .number _ => exact plain.elim
  | .string _ => exact run_of_begin? rfl rfl room rest
  | .array [] =>
      apply run_of_open rfl
      intro deeper
      change (Reader.firstItem stack).run (.closeArray :: rest) = _
      rw [run_cons, depthOfItems, if_pos (by omega)]
      rfl
  | .array (item :: items) =>
      obtain ⟨itemPlain, itemsPlain⟩ := plain
      rw [tokens, List.append_assoc, List.cons_append]
      apply run_of_open rfl
      intro deeper
      rw [run_firstItem, run_tokens item itemPlain (.array [] :: stack) deeper, depthOfItems,
        ← ite_ite_max]
      congr 1
      exact run_itemTokens items itemsPlain [item] deeper rest
  | .object [] =>
      apply run_of_open rfl
      intro deeper
      change (Reader.firstField stack).run (.closeObject :: rest) = _
      rw [run_cons, depthOfFields, if_pos (by omega)]
      rfl
  | .object ((name, first) :: fields) =>
      obtain ⟨namesDistinct, firstPlain, fieldsPlain⟩ := plain
      rw [tokens, List.append_assoc, List.cons_append, List.cons_append, List.cons_append]
      apply run_of_open rfl
      intro deeper
      change (Reader.anyValue (.object [] name :: stack)).run _ = _
      rw [run_tokens first firstPlain (.object [] name :: stack) deeper, depthOfFields,
        ← ite_ite_max]
      congr 1
      exact run_fieldTokens fields fieldsPlain [(name, first)] namesDistinct deeper rest
termination_by structural value

theorem run_itemTokens
    (items : List Json)
    (plain : ArePlain items)
    (reversed : List Json)
    {stack : List Frame}
    (room : stack.length < maxDepth)
    (rest : List Token) :
    (Reader.moreItems reversed stack).run (itemTokens items ++ rest) =
      if depthOfItems items + (stack.length + 1) ≤ maxDepth then
        (deliver (.array (reversed.reverse ++ items)) stack).run rest
      else
        none := by
  match items with
  | [] =>
      rw [depthOfItems, if_pos (by omega), List.append_nil]
      rfl
  | item :: items =>
      obtain ⟨itemPlain, itemsPlain⟩ := plain
      rw [itemTokens, List.append_assoc, List.cons_append]
      change (Reader.anyValue (.array reversed :: stack)).run _ = _
      rw [run_tokens item itemPlain (.array reversed :: stack) room, depthOfItems,
        ← ite_ite_max]
      congr 1
      have others := run_itemTokens items itemsPlain (item :: reversed) room rest
      rw [List.reverse_cons, List.append_assoc, List.singleton_append] at others
      exact others
termination_by structural items

theorem run_fieldTokens
    (fields : List (String × Json))
    (plain : HavePlainValues fields)
    (done : List (String × Json))
    (namesDistinct : ((done ++ fields).map (·.1)).Nodup)
    {stack : List Frame}
    (room : stack.length < maxDepth)
    (rest : List Token) :
    (Reader.moreFields done stack).run (fieldTokens fields ++ rest) =
      if depthOfFields fields + (stack.length + 1) ≤ maxDepth then
        (deliver (.object (done ++ fields)) stack).run rest
      else
        none := by
  match fields with
  | [] =>
      rw [depthOfFields, if_pos (by omega), List.append_nil]
      rfl
  | (name, value) :: fields =>
      obtain ⟨valuePlain, fieldsPlain⟩ := plain
      rw [fieldTokens, List.append_assoc, List.cons_append, List.cons_append, List.cons_append]
      change (Reader.anyValue (.object done name :: stack)).run _ = _
      rw [run_tokens value valuePlain (.object done name :: stack) room, depthOfFields,
        ← ite_ite_max]
      congr 1
      have absent : name ∉ done.map (·.1) := by
        rw [List.map_append, List.map_cons, List.nodup_middle, List.nodup_cons] at namesDistinct
        exact fun present => namesDistinct.1 (List.mem_append_left _ present)
      have split : done ++ (name, value) :: fields = (done ++ [(name, value)]) ++ fields := by
        simp
      rw [split] at namesDistinct ⊢
      change (Reader.moreFields (setField name value done) stack).run _ = _
      rw [setField_of_not_mem absent]
      exact run_fieldTokens fields fieldsPlain _ namesDistinct room rest
termination_by structural fields

end

end Reader

/-- The tokens of a value spell it, unless it nests too deeply. -/
theorem ofTokens?_tokens
    {value : Json}
    (plain : value.IsPlain) :
    ofTokens? value.tokens = if value.depth ≤ maxDepth then some value else none := by
  have run := Reader.run_tokens value plain [] (Nat.zero_le _) []
  rw [List.append_nil, Reader.run] at run
  rw [ofTokens?, run, List.length_nil, Nat.add_zero]
  by_cases fits : value.depth ≤ maxDepth
  · rw [if_pos fits, if_pos fits]
    rfl
  · rw [if_neg fits, if_neg fits]
    rfl

/-- A line with the indented text of a value is read as the value, unless it nests too
deeply. -/
theorem parse?_pretty_line
    {value : Json}
    (plain : value.IsPlain) :
    parse? (value.pretty ++ "\n") = if value.depth ≤ maxDepth then some value else none := by
  have ended : Token.scan? ['\n'] = some [] := by
    rw [Token.scan?_space (by decide), Token.scan?_nil]
  have chars : (value.pretty ++ "\n").toList = prettyChars 0 value ++ ['\n'] := by
    simp [pretty]
  rw [parse?, chars, Token.spells_pretty 0 value plain ['\n'], ended]
  simp [ofTokens?_tokens plain]

end Json
end ContingentClaims
