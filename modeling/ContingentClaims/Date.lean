import ContingentClaims.Json.Basic
import ContingentClaims.Text.Blank
import ContingentClaims.Text.Digits

/-!
# Calendar dates

Days of the proleptic Gregorian calendar in the years -9999 to 9999, and their
ISO form `YYYY-MM-DD`. A sign may precede the year when a date is read; only a
minus is ever written.
-/

namespace ContingentClaims
namespace Date

/-- A year of 366 days. -/
def isLeap (year : Int) : Bool :=
  year % 4 == 0 && (year % 100 != 0 || year % 400 == 0)

/-- The number of days of a month. -/
def daysIn
    (year : Int)
    (month : Nat) : Nat :=
  if month = 2 then
    if isLeap year then 29 else 28
  else if month = 4 || month = 6 || month = 9 || month = 11 then
    30
  else
    31

end Date

/-- A day of the calendar. -/
structure Date where
  year : Int
  month : Nat
  day : Nat
  year_range : -9999 ≤ year ∧ year ≤ 9999
  month_range : 1 ≤ month ∧ month ≤ 12
  day_range : 1 ≤ day ∧ day ≤ Date.daysIn year month
  deriving DecidableEq

namespace Date

/-- The day with the given parts, if there is one. -/
def ofParts?
    (year : Int)
    (month day : Nat) : Option Date :=
  if valid : (-9999 ≤ year ∧ year ≤ 9999) ∧ (1 ≤ month ∧ month ≤ 12) ∧
      1 ≤ day ∧ day ≤ daysIn year month then
    some ⟨year, month, day, valid.1, valid.2.1, valid.2.2⟩
  else
    none

/-! ## The ISO form -/

/-- Read four digits, a dash, two digits, a dash and two digits. -/
def unsigned?
    (negative : Bool) : List Char -> Option Date
  | [y1, y2, y3, y4, '-', m1, m2, '-', d1, d2] => do
      let year <- Digits.read? [y1, y2, y3, y4]
      let month <- Digits.read? [m1, m2]
      let day <- Digits.read? [d1, d2]
      ofParts? (if negative then -(year : Int) else year) month day
  | _ => none

/-- Read a date in ISO form that has no blanks around it. -/
def ofIsoChars? : List Char -> Option Date
  | '-' :: rest => unsigned? true rest
  | '+' :: rest => unsigned? false rest
  | text => unsigned? false text

/-- Read a date in ISO form; blanks around it are ignored. -/
def ofIso? (text : String) : Option Date :=
  ofIsoChars? (Text.trimChars text.toList)

/-- The ISO form of a date. -/
def isoChars (date : Date) : List Char :=
  let day :=
    Digits.writePadded 4 date.year.natAbs ++ '-' :: Digits.writePadded 2 date.month ++
      '-' :: Digits.writePadded 2 date.day
  if date.year < 0 then '-' :: day else day

/-- The ISO form of a date. -/
def iso (date : Date) : String :=
  String.ofList date.isoChars

/-! ## Documents -/

/-- A date is a string in a document. -/
def ofJson? (value : Json) : Option Date :=
  value.string?.bind ofIso?

/-- The document of a date: its ISO form. -/
def toJson (date : Date) : Json :=
  .string date.iso

end Date
end ContingentClaims
