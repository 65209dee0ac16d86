import ContingentClaims.Text.Blank
import Mathlib.Data.List.DropRight

/-!
# Trimmed texts

A text without blanks at its ends is left alone by trimming, and trimming yields
such a text.
-/

namespace ContingentClaims
namespace Text

theorem trimChars_eq (text : List Char) :
    trimChars text = (text.dropWhile isBlank).rdropWhile isBlank := rfl

/-- A text of characters that are no blanks has nothing to trim. -/
theorem trimChars_eq_self
    {text : List Char}
    (solid : ∀ c ∈ text, isBlank c = false) :
    trimChars text = text := by
  have front : text.dropWhile isBlank = text := by
    rw [List.dropWhile_eq_self_iff]
    intro nonempty blank
    simp [solid _ (List.getElem_mem nonempty)] at blank
  have back : text.rdropWhile isBlank = text := by
    rw [List.rdropWhile_eq_self_iff]
    intro nonempty blank
    simp [solid _ (List.getLast_mem nonempty)] at blank
  rw [trimChars_eq, front, back]

/-- A trimmed text has nothing to trim. -/
theorem trimChars_trimChars (text : List Char) :
    trimChars (trimChars text) = trimChars text := by
  simp only [trimChars_eq]
  generalize inner : text.dropWhile isBlank = rest
  have kept : (rest.rdropWhile isBlank).dropWhile isBlank = rest.rdropWhile isBlank := by
    rw [List.dropWhile_eq_self_iff]
    intro nonempty blank
    have isPrefix := List.rdropWhile_prefix isBlank (l := rest)
    have restNonempty : 0 < rest.length := Nat.lt_of_lt_of_le nonempty isPrefix.length_le
    have sameFirst : (rest.rdropWhile isBlank)[0] = rest[0] := isPrefix.getElem nonempty
    have restKept : rest.dropWhile isBlank = rest := by
      rw [← inner]
      exact List.dropWhile_idempotent isBlank text
    rw [List.dropWhile_eq_self_iff] at restKept
    rw [sameFirst] at blank
    exact restKept restNonempty blank
  rw [kept]
  exact List.rdropWhile_idempotent isBlank rest

end Text
end ContingentClaims
