/-!
# Command-line arguments

Reading the arguments of the command line. Options have long names and take
their value after `=` or as the next argument; the general ones may stand before
or after the subcommand, where the latter counts. Arguments behind `--` are
operands. An option may occur once at each level.
-/

namespace ContingentClaims
namespace Command

/-! ## What can be asked for -/

/-- The form of reports and of some results. -/
inductive OutputFormat
  | text
  | json
  deriving DecidableEq

/-- The scheme of identifiers for new nodes. -/
inductive IdMode
  | random
  | sequential
  deriving DecidableEq

/-- The kind of term that a document holds. -/
inductive TermKind
  | claim
  | observation
  | inequality
  deriving DecidableEq

/-- A subcommand with its operands and options. -/
inductive Task
  | encode (file : String) (kind : TermKind)
  | decode (file : String) (kind : TermKind)
  | validate (file : String)
  | present (file : String)
  | menu (kind : TermKind)
  /-- Run a script on the tree of a file, or on an empty one. -/
  | edit (file : Option String) (script : String) (submit : Bool)

/-- A complete request. -/
structure Invocation where
  output : OutputFormat
  quiet : Bool
  ids : IdMode
  task : Task

/-- Why there is nothing to run. -/
inductive Stop
  /-- The arguments are not understood. -/
  | refused
  /-- The version is asked for. -/
  | version
  /-- Help is asked for. -/
  | help
  deriving DecidableEq

/-- The format of an argument. -/
def OutputFormat.ofName? : String -> Option OutputFormat
  | "text" => some .text
  | "json" => some .json
  | _ => none

/-- The scheme of an argument. -/
def IdMode.ofName? : String -> Option IdMode
  | "random" => some .random
  | "sequential" => some .sequential
  | _ => none

/-- The kind of an argument. -/
def TermKind.ofName? : String -> Option TermKind
  | "claim" => some .claim
  | "observation" => some .observation
  | "inequality" => some .inequality
  | _ => none

/-! ## Levels -/

/-- What an option takes. -/
inductive OptionForm
  /-- Nothing. -/
  | flag
  /-- A value that satisfies a condition. -/
  | valued (accepts : String -> Bool)

/-- The arguments that one level understands: the command itself or one of its
subcommands. -/
structure Level where
  options : List (String × OptionForm)
  /-- The greatest number of operands. -/
  operands : Nat
  /-- The names that end the level, each of a level below. -/
  subcommands : List String
  hasVersion : Bool

/-- The arguments of one level, sorted. -/
structure Sorted where
  flags : List String := []
  values : List (String × String) := []
  operands : List String := []
  /-- The subcommand and what follows it. -/
  subcommand : Option (String × List String) := none

/-- Options of every level. -/
def generalOptions : List (String × OptionForm) :=
  [("output", .valued fun value => (OutputFormat.ofName? value).isSome),
    ("quiet", .flag),
    ("log", .valued fun _ => true),
    ("ids", .valued fun value => (IdMode.ofName? value).isSome)]

/-- The option that selects a kind of term. -/
def kindOption : String × OptionForm :=
  ("kind", .valued fun value => (TermKind.ofName? value).isSome)

/-- The level of the command itself. -/
def topLevel : Level where
  options := generalOptions
  operands := 0
  subcommands := ["encode", "decode", "validate", "show", "menu", "edit", "help"]
  hasVersion := true

/-- The level of a subcommand. -/
def levelOf : String -> Level
  | "encode" => ⟨kindOption :: generalOptions, 1, [], false⟩
  | "decode" => ⟨kindOption :: generalOptions, 1, [], false⟩
  | "menu" => ⟨kindOption :: generalOptions, 0, [], false⟩
  | "edit" =>
      ⟨("blank", .flag) :: ("submit", .flag) ::
        ("script", .valued fun value => !value.isEmpty) :: generalOptions, 1, [], false⟩
  | _ => ⟨generalOptions, 1, [], false⟩

/-! ## Sorting the arguments of a level -/

/-- An argument by its form. -/
inductive Word
  /-- Two dashes alone. -/
  | separator
  /-- Two dashes, a name, and possibly `=` and a value. -/
  | long (name : String) (value : Option String)
  /-- A dash and letters. -/
  | short (letters : List Char)
  /-- Anything else. -/
  | plain

/-- The form of an argument. -/
def Word.of (argument : String) : Word :=
  match argument.toList with
  | ['-', '-'] => .separator
  | '-' :: '-' :: body =>
      let name := body.takeWhile (· != '=')
      match body.dropWhile (· != '=') with
      | [] => .long (String.ofList name) none
      | _ :: value => .long (String.ofList name) (some (String.ofList value))
  | '-' :: letter :: letters => .short (letter :: letters)
  | _ => .plain

namespace Sorted

/-- Whether an option occurred. -/
def has
    (sorted : Sorted)
    (name : String) : Bool :=
  sorted.flags.contains name || (sorted.values.lookup name).isSome

/-- Record a flag, unless it is a repetition. -/
def addFlag
    (sorted : Sorted)
    (name : String) : Except Stop Sorted :=
  if sorted.has name then .error .refused
  else .ok { sorted with flags := name :: sorted.flags }

/-- Record the value of an option, unless it is a repetition or no valid value. -/
def addValue
    (sorted : Sorted)
    (name value : String)
    (accepts : String -> Bool) : Except Stop Sorted :=
  if sorted.has name || !accepts value then .error .refused
  else .ok { sorted with values := (name, value) :: sorted.values }

/-- Record an operand, unless there are enough. An operand is not empty. -/
def addOperand
    (sorted : Sorted)
    (level : Level)
    (value : String) : Except Stop Sorted :=
  if value.isEmpty || level.operands ≤ sorted.operands.length then .error .refused
  else .ok { sorted with operands := sorted.operands ++ [value] }

/-- What the first letter of a short option asks for. -/
def ofLetters
    (level : Level) : List Char -> Stop
  | 'h' :: _ => .help
  | 'V' :: _ => if level.hasVersion then .version else .refused
  | _ => .refused

end Sorted

/-- Whether an argument can be the value of the option before it. -/
def isValue (argument : String) : Bool :=
  match Word.of argument with
  | .plain => true
  | _ => false

/-- Sort the arguments of a level. -/
def sortLevel
    (level : Level)
    (sorted : Sorted) : List String -> Except Stop Sorted
  | [] => .ok sorted
  | argument :: rest =>
      match Word.of argument with
      | .separator => rest.foldlM (fun sorted value => sorted.addOperand level value) sorted
      | .short letters => .error (Sorted.ofLetters level letters)
      | .plain =>
          if level.subcommands.contains argument then
            .ok { sorted with subcommand := some (argument, rest) }
          else do
            let sorted <- sorted.addOperand level argument
            sortLevel level sorted rest
      | .long "help" none => .error .help
      | .long "version" none => .error (if level.hasVersion then .version else .refused)
      | .long name value? =>
          match level.options.lookup name, value?, rest with
          | some .flag, none, rest => do
              let sorted <- sorted.addFlag name
              sortLevel level sorted rest
          | some (.valued accepts), some value, rest => do
              let sorted <- sorted.addValue name value accepts
              sortLevel level sorted rest
          | some (.valued accepts), none, value :: rest =>
              if isValue value then do
                let sorted <- sorted.addValue name value accepts
                sortLevel level sorted rest
              else
                .error .refused
          | _, _, _ => .error .refused

/-! ## Reading a request -/

/-- The value of an option, the level below taking precedence. -/
def valueOf
    (below above : Sorted)
    (name : String) : Option String :=
  (below.values.lookup name).or (above.values.lookup name)

/-- The kind of term asked for; claims by default. -/
def Sorted.kind (sorted : Sorted) : TermKind :=
  ((sorted.values.lookup "kind").bind TermKind.ofName?).getD .claim

/-- The task of a subcommand. -/
def taskOf?
    (name : String)
    (sorted : Sorted) : Option Task :=
  match name, sorted.operands with
  | "encode", [file] => some (.encode file sorted.kind)
  | "decode", [file] => some (.decode file sorted.kind)
  | "validate", [file] => some (.validate file)
  | "show", [file] => some (.present file)
  | "menu", [] => some (.menu sorted.kind)
  | "edit", operands => do
      let script <- sorted.values.lookup "script"
      match operands, sorted.has "blank" with
      | [file], false => some (.edit (some file) script (sorted.has "submit"))
      | [], true => some (.edit none script (sorted.has "submit"))
      | _, _ => none
  | _, _ => none

/-- What a request for help comes to: what follows it is the name of a subcommand,
or nothing. -/
def helpStop : List String -> Stop
  | [] => .help
  | [topic] => if topLevel.subcommands.contains topic then .help else .refused
  | _ => .refused

/-- Read the arguments of the command line. -/
def parse (arguments : List String) : Except Stop Invocation := do
  let above <- sortLevel topLevel {} arguments
  match above.subcommand with
  | none => throw .refused
  | some ("help", topics) => throw (helpStop topics)
  | some (name, rest) => do
      let below <- sortLevel (levelOf name) {} rest
      match taskOf? name below with
      | none => throw .refused
      | some task =>
          return {
            output := ((valueOf below above "output").bind OutputFormat.ofName?).getD .text
            quiet := below.has "quiet" || above.has "quiet"
            ids := ((valueOf below above "ids").bind IdMode.ofName?).getD .random
            task }

end Command
end ContingentClaims
