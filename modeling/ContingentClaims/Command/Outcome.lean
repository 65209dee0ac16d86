import ContingentClaims.Json.Writer

/-!
# Outcomes of a command

What a run of the command line leaves behind: an exit code, the text on standard
output, and the report on standard error.
-/

namespace ContingentClaims
namespace Command

/-- What is reported on standard error. -/
inductive Report
  /-- Lines of text. -/
  | lines (lines : List String)
  /-- A JSON document on one line. -/
  | document (value : Json)
  /-- An indented JSON document. -/
  | prettyDocument (value : Json)
  /-- The findings about an invalid tree. -/
  | findings (messages : List String)

/-- Lines of text, each with its end. -/
def unlines (lines : List String) : String :=
  String.join (lines.map (· ++ "\n"))

/-- The text of a report. -/
def Report.text : Report -> String
  | lines texts => unlines texts
  | document value => unlines [value.compact]
  | prettyDocument value => unlines [value.pretty]
  | findings messages => unlines ("invalid tree" :: messages.map ("  - " ++ ·))

/-- What a run leaves behind. -/
structure Outcome where
  exitCode : Nat := 0
  output : String := ""
  report : Report := .lines []

namespace Outcome

/-- Success with lines of text. -/
def ofLines (lines : List String) : Outcome where
  output := unlines lines

/-- Success with an indented JSON document. -/
def ofJson (value : Json) : Outcome :=
  ofLines [value.pretty]

end Outcome
end Command
end ContingentClaims
