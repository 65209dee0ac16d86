import ContingentClaims.Json.Part
import ContingentClaims.Json.Token
import ContingentClaims.Json.Writer
import Mathlib.Tactic.SplitIfs

/-!
# Scanning what is written

The tokens of a value are those of its indented text: blanks between them are skipped,
and the escapes of a string stand for its characters. Numbers are left out, since the
documents of terms and trees spell them as strings.
-/

namespace ContingentClaims
namespace Json
namespace Token

/-! ## Steps of the scanner -/

theorem scan?_nil : scan? [] = some [] := by
  rw [scan?]

theorem scan?_space
    {c : Char}
    (space : isSpace c = true)
    (rest : List Char) :
    scan? (c :: rest) = scan? rest := by
  rw [scan?, if_pos space]

theorem scan?_next
    {c : Char}
    {rest tail : List Char}
    {token : Token}
    (filled : isSpace c = false)
    (found : next? (c :: rest) = some (token, tail)) :
    scan? (c :: rest) = (scan? tail).map (token :: ·) := by
  rw [scan?, if_neg (by simp [filled])]
  split
  next missing => simp [missing] at found
  next token' tail' found' =>
    rw [found', Option.some.injEq, Prod.mk.injEq] at found
    obtain ⟨rfl, rfl⟩ := found
    rfl

theorem scan?_newline
    (level : Nat)
    (rest : List Char) :
    scan? (newline level ++ rest) = scan? rest := by
  have blanks (count : Nat) : scan? (List.replicate count ' ' ++ rest) = scan? rest := by
    induction count with
    | zero => rfl
    | succ count countHypothesis =>
        rw [List.replicate_succ, List.cons_append, scan?_space (by decide), countHypothesis]
  rw [newline, List.cons_append, scan?_space (by decide), blanks]

/-! ## Strings -/

/-- A character that needs no escape stands for itself. -/
theorem stringBody?_plain
    {c : Char}
    (noQuote : c ≠ '"')
    (noEscape : c ≠ '\\')
    (printable : ¬c.toNat < 0x20)
    (done rest : List Char) :
    stringBody? done (c :: rest) = stringBody? (c :: done) rest := by
  rw [stringBody?.eq_5 done c rest noQuote (fun _ _ _ _ _ same => absurd same noEscape)
    (fun _ _ same => absurd same noEscape), if_neg printable]

/-- An escape of one letter stands for what it means. -/
theorem stringBody?_escaped
    {c meant : Char}
    (known : escaped? c = some meant)
    (done rest : List Char) :
    stringBody? done ('\\' :: c :: rest) = stringBody? (meant :: done) rest := by
  have noUnit : c ≠ 'u' := by
    rintro rfl
    simp [escaped?] at known
  rw [stringBody?.eq_4 done c rest (fun _ _ _ _ _ same => absurd same noUnit), known]

/-- The escape of a control character by its code unit. -/
theorem stringBody?_unit
    {c : Char}
    (control : c.toNat < 0x20)
    (done rest : List Char) :
    stringBody? done
        ('\\' :: 'u' :: '0' :: '0' :: Hex.ofDigit (c.toNat / 16) ::
          Hex.ofDigit (c.toNat % 16) :: rest) =
      stringBody? (c :: done) rest := by
  have zero : Hex.digitValue? '0' = some 0 := rfl
  have high : Hex.digitValue? (Hex.ofDigit (c.toNat / 16)) = some (c.toNat / 16) :=
    Hex.digitValue?_ofDigit (by omega)
  have low : Hex.digitValue? (Hex.ofDigit (c.toNat % 16)) = some (c.toNat % 16) :=
    Hex.digitValue?_ofDigit (by omega)
  have unit : codeUnit? '0' '0' (Hex.ofDigit (c.toNat / 16)) (Hex.ofDigit (c.toNat % 16)) =
      some c.toNat := by
    simp only [codeUnit?, zero, high, low, Option.bind_eq_bind, Option.bind_some,
      Option.pure_def, Option.some.injEq]
    omega
  have noLeading : isLeadingUnit c.toNat = false := by
    simp [isLeadingUnit]
    omega
  have noTrailing : isTrailingUnit c.toNat = false := by
    simp [isTrailingUnit]
    omega
  rw [stringBody?.eq_3, unit]
  simp [noLeading, noTrailing]

/-- The written form of a character stands for the character. -/
theorem stringBody?_escape
    (c : Char)
    (done rest : List Char) :
    stringBody? done (escape c ++ rest) = stringBody? (c :: done) rest := by
  unfold escape
  split_ifs with quote backslash backspace formFeed lineFeed carriageReturn tab control
  · subst quote
    exact stringBody?_escaped rfl done rest
  · subst backslash
    exact stringBody?_escaped rfl done rest
  · subst backspace
    exact stringBody?_escaped rfl done rest
  · subst formFeed
    exact stringBody?_escaped rfl done rest
  · subst lineFeed
    exact stringBody?_escaped rfl done rest
  · subst carriageReturn
    exact stringBody?_escaped rfl done rest
  · subst tab
    exact stringBody?_escaped rfl done rest
  · exact stringBody?_unit control done rest
  · exact stringBody?_plain quote backslash control done rest

theorem stringBody?_escaped_text
    (text done rest : List Char) :
    stringBody? done (text.flatMap escape ++ '"' :: rest) =
      some (text.reverse ++ done, rest) := by
  induction text generalizing done with
  | nil => exact stringBody?.eq_2 done rest
  | cons c text textHypothesis =>
      rw [List.flatMap_cons, List.append_assoc, stringBody?_escape, textHypothesis,
        List.reverse_cons, List.append_assoc, List.singleton_append]

/-! ## Texts and their tokens -/

/-- The tokens of a text, whatever follows it. -/
def Spells
    (text : List Char)
    (tokens : List Token) : Prop :=
  ∀ rest, scan? (text ++ rest) = (scan? rest).map (tokens ++ ·)

theorem spells_append
    {front back : List Char}
    {first second : List Token}
    (spellsFront : Spells front first)
    (spellsBack : Spells back second) :
    Spells (front ++ back) (first ++ second) := by
  intro rest
  rw [List.append_assoc, spellsFront, spellsBack, Option.map_map]
  simp [Function.comp_def]

/-- Blanks spell nothing. -/
theorem spells_newline_append
    {text : List Char}
    {tokens : List Token}
    (spells : Spells text tokens)
    (level : Nat) :
    Spells (newline level ++ text) tokens := by
  intro rest
  rw [List.append_assoc, scan?_newline, spells]

/-- A token that is read from its text, whatever follows. -/
theorem spells_of_next
    {c : Char}
    {text : List Char}
    {token : Token}
    (filled : isSpace c = false)
    (found : ∀ rest, next? (c :: text ++ rest) = some (token, rest)) :
    Spells (c :: text) [token] :=
  fun rest => scan?_next filled (found rest)

theorem spells_openArray : Spells ['['] [.openArray] :=
  spells_of_next (by decide) fun _ => rfl

theorem spells_closeArray : Spells [']'] [.closeArray] :=
  spells_of_next (by decide) fun _ => rfl

theorem spells_openObject : Spells ['{'] [.openObject] :=
  spells_of_next (by decide) fun _ => rfl

theorem spells_closeObject : Spells ['}'] [.closeObject] :=
  spells_of_next (by decide) fun _ => rfl

theorem spells_comma : Spells [','] [.comma] :=
  spells_of_next (by decide) fun _ => rfl

/-- A colon and the blank behind it. -/
theorem spells_colon : Spells [':', ' '] [.colon] := by
  intro rest
  have blank : scan? (' ' :: rest) = scan? rest := scan?_space (by decide) rest
  change scan? (':' :: ' ' :: rest) = (scan? rest).map (.colon :: ·)
  rw [← blank]
  exact scan?_next (by decide) rfl

/-- A string in quotes is one token. -/
theorem spells_quote (text : String) : Spells (quote text) [.string text] := by
  intro rest
  have body := stringBody?_escaped_text text.toList [] rest
  rw [quote, List.cons_append, List.cons_append, List.append_assoc, List.singleton_append]
  apply scan?_next (by decide)
  rw [next?, body]
  simp

end Token

/-! ## Values -/

mutual

/-- The tokens of a value. -/
def tokens : Json -> List Token
  | .null => [.null]
  | .bool value => [.bool value]
  | .number value => [.number value]
  | .string text => [.string text]
  | .array [] => [.openArray, .closeArray]
  | .array (item :: rest) => .openArray :: tokens item ++ itemTokens rest
  | .object [] => [.openObject, .closeObject]
  | .object ((name, value) :: rest) =>
      .openObject :: .string name :: .colon :: tokens value ++ fieldTokens rest
termination_by structural value => value

/-- The tokens of the items of an array after its first, and of its end. -/
def itemTokens : List Json -> List Token
  | [] => [.closeArray]
  | item :: rest => .comma :: tokens item ++ itemTokens rest
termination_by structural items => items

/-- The tokens of the fields of an object after its first, and of its end. -/
def fieldTokens : List (String × Json) -> List Token
  | [] => [.closeObject]
  | (name, value) :: rest =>
      .comma :: .string name :: .colon :: tokens value ++ fieldTokens rest
termination_by structural fields => fields

end

/-! ## Plain values -/

mutual

/-- No number occurs in a value, and no object in it has two fields of one name. -/
def IsPlain : Json -> Prop
  | .number _ => False
  | .array items => ArePlain items
  | .object fields => (fields.map (·.1)).Nodup ∧ HavePlainValues fields
  | _ => True
termination_by structural value => value

/-- Values that are plain. -/
def ArePlain : List Json -> Prop
  | [] => True
  | item :: rest => item.IsPlain ∧ ArePlain rest
termination_by structural items => items

/-- Fields with plain values. -/
def HavePlainValues : List (String × Json) -> Prop
  | [] => True
  | (_, value) :: rest => value.IsPlain ∧ HavePlainValues rest
termination_by structural fields => fields

end

@[simp] theorem isPlain_string (text : String) : (Json.string text).IsPlain := trivial

@[simp] theorem isPlain_array (items : List Json) :
    (Json.array items).IsPlain ↔ ∀ item ∈ items, item.IsPlain := by
  change ArePlain items ↔ _
  induction items with
  | nil => simp [ArePlain]
  | cons item rest restHypothesis => simp [ArePlain, restHypothesis]

@[simp] theorem isPlain_object (fields : List (String × Json)) :
    (Json.object fields).IsPlain ↔
      (fields.map (·.1)).Nodup ∧ ∀ field ∈ fields, field.2.IsPlain := by
  have values : HavePlainValues fields ↔ ∀ field ∈ fields, field.2.IsPlain := by
    induction fields with
    | nil => simp [HavePlainValues]
    | cons field rest restHypothesis => simp [HavePlainValues, restHypothesis]
  rw [IsPlain, values]

@[simp] theorem isPlain_tagged
    (tag : String)
    (payload : Json) :
    (tagged tag payload).IsPlain ↔ payload.IsPlain := by
  simp [tagged]

namespace Token

mutual

/-- The indented text of a value spells its tokens. -/
theorem spells_pretty
    (level : Nat)
    (value : Json)
    (plain : value.IsPlain) :
    Spells (prettyChars level value) value.tokens := by
  match value with
  | .null => exact spells_of_next (by decide) fun rest => rfl
  | .bool true => exact spells_of_next (by decide) fun rest => rfl
  | .bool false => exact spells_of_next (by decide) fun rest => rfl
  | .number _ => exact plain.elim
  | .string text => exact spells_quote text
  | .array [] => exact spells_append spells_openArray spells_closeArray
  | .array (item :: rest) =>
      obtain ⟨itemPlain, restPlain⟩ := plain
      have spells := spells_append spells_openArray
        (spells_append
          (spells_newline_append (spells_pretty (level + 1) item itemPlain) (level + 1))
          (spells_prettyItems level rest restPlain))
      simpa [prettyChars, tokens] using spells
  | .object [] => exact spells_append spells_openObject spells_closeObject
  | .object ((name, value) :: rest) =>
      obtain ⟨_, valuePlain, restPlain⟩ := plain
      have spells := spells_append spells_openObject
        (spells_append (spells_newline_append (spells_quote name) (level + 1))
          (spells_append spells_colon
            (spells_append (spells_pretty (level + 1) value valuePlain)
              (spells_prettyFields level rest restPlain))))
      simpa [prettyChars, tokens] using spells
termination_by structural value

theorem spells_prettyItems
    (level : Nat)
    (items : List Json)
    (plain : ArePlain items) :
    Spells (prettyItems level items) (itemTokens items) := by
  match items with
  | [] => exact spells_newline_append spells_closeArray level
  | item :: rest =>
      obtain ⟨itemPlain, restPlain⟩ := plain
      have spells := spells_append spells_comma
        (spells_append
          (spells_newline_append (spells_pretty (level + 1) item itemPlain) (level + 1))
          (spells_prettyItems level rest restPlain))
      simpa [prettyItems, itemTokens] using spells
termination_by structural items

theorem spells_prettyFields
    (level : Nat)
    (fields : List (String × Json))
    (plain : HavePlainValues fields) :
    Spells (prettyFields level fields) (fieldTokens fields) := by
  match fields with
  | [] => exact spells_newline_append spells_closeObject level
  | (name, value) :: rest =>
      obtain ⟨valuePlain, restPlain⟩ := plain
      have spells := spells_append spells_comma
        (spells_append (spells_newline_append (spells_quote name) (level + 1))
          (spells_append spells_colon
            (spells_append (spells_pretty (level + 1) value valuePlain)
              (spells_prettyFields level rest restPlain))))
      simpa [prettyFields, fieldTokens] using spells
termination_by structural fields

end

end Token
end Json
end ContingentClaims
