import ContingentClaims.Command.Arguments
import ContingentClaims.Command.Outcome
import ContingentClaims.Ids.Sequential
import ContingentClaims.Json.Reader
import ContingentClaims.Script.Operations
import ContingentClaims.Tree.Schema

/-!
# Running commands

Each subcommand as a function from the contents of files to an outcome. A
failure is reported as text or as a JSON document, and not at all if the run is
quiet; its exit code is one. Arguments that are not understood have exit code
two. A run breaks off when the counter of the identifiers overflows, with exit
code 101.
-/

namespace ContingentClaims
namespace Command

/-- The name and version of the program. -/
def versionText : String := "payoff 0.1.0"

/-- What a run is given besides its arguments. -/
structure Environment where
  /-- The text of a file, if it can be read. -/
  fileText : String -> Option String
  /-- The identifiers of the random mode. -/
  randomIds : IdSource

/-! ## Failures -/

/-- Why a run fails. -/
inductive Failure
  | unreadableFile (path : String)
  | malformedJson (path : String)
  | malformedTerm (kind : TermKind)
  | malformedScript (path : String)
  | malformedTree
  /-- A tree that denotes no term; the advice to finish it is for decoding. -/
  | undecodable (error : TreeError) (advise : Bool)
  | failedStep (error : ScriptError)
  | brokenCatalogs (error : CatalogError)
  | invalidTree (findings : List String)
  /-- The counter of the identifiers overflows, and the run breaks off. -/
  | counterOverflow

/-- The type of the nodes that encode a kind of term. -/
def TermKind.type : TermKind -> NodeType
  | .claim => .claim
  | .observation => .observation
  | .inequality => .inequality

namespace Failure

/-- The message about a tree document that cannot be read. -/
def malformedTreeMessage : String := "malformed tree document"

/-- The failure in words. -/
def message : Failure -> String
  | unreadableFile path => s!"error reading file '{path}'"
  | malformedJson path => s!"error parsing JSON in '{path}'"
  | malformedTerm kind => s!"error parsing {kind.type.name} term"
  | malformedScript path => s!"error parsing script '{path}'"
  | malformedTree => malformedTreeMessage
  | undecodable error _ => error.message
  | failedStep error => error.message
  | brokenCatalogs error => s!"internal error: {error.message}"
  | invalidTree _ => "invalid tree"
  | counterOverflow => "attempt to add with overflow"

/-- The failure as a document. -/
def toJson : Failure -> Json
  | malformedTree =>
      .object [("error", .object [("kind", .string "malformed"),
        ("message", .string malformedTreeMessage), ("node_id", .null), ("tag", .null)])]
  | undecodable error _ => .object [("error", error.toJson)]
  | invalidTree findings =>
      .object [("errors", .array (findings.map .string)), ("valid", .bool false)]
  | failure => .object [("error", .string failure.message)]

/-- The advice that goes with a failure. -/
def advice : Failure -> List String
  | undecodable error true =>
      if error.isIncomplete then ["hint: finish building the tree before decoding"] else []
  | _ => []

/-- The report of a failure. Findings about a tree are reported as a document even
in a quiet run, and an overflow in words always. -/
def report
    (failure : Failure)
    (output : OutputFormat)
    (quiet : Bool) : Report :=
  match failure, output, quiet with
  | counterOverflow, _, _ => .lines [failure.message]
  | invalidTree findings, .text, false => .findings findings
  | invalidTree _, .json, _ => .prettyDocument failure.toJson
  | _, _, true => .lines []
  | _, .text, false => .lines (failure.message :: failure.advice)
  | _, .json, false => .document failure.toJson

/-- The exit code of a run that fails. -/
def exitCode : Failure -> Nat
  | counterOverflow => 101
  | _ => 1

/-- The outcome of a run that fails. -/
def outcome
    (failure : Failure)
    (invocation : Invocation) : Outcome where
  exitCode := failure.exitCode
  report := failure.report invocation.output invocation.quiet

end Failure

/-! ## Input -/

/-- Read a file as a JSON document. -/
def Environment.readJson
    (environment : Environment)
    (path : String) : Except Failure Json :=
  match environment.fileText path with
  | none => .error (.unreadableFile path)
  | some text =>
      match Json.parse? text with
      | none => .error (.malformedJson path)
      | some value => .ok value

/-- Read a document as a tree. -/
def loadTree (value : Json) : Except Failure Tree :=
  match Tree.ofJson? value with
  | none => .error .malformedTree
  | some tree => .ok tree

/-- The source of identifiers of a mode. -/
def Environment.idSource
    (environment : Environment) : IdMode -> IdSource
  | .random => environment.randomIds
  | .sequential => (SequentialIds.mk "n" 0).source

/-- The source of identifiers of a mode for a tree that has some already, unless
its counter overflows behind these. -/
def Environment.idSourceAfter?
    (environment : Environment)
    (tree : Tree) : IdMode -> Option IdSource
  | .random => some environment.randomIds
  | .sequential => ((SequentialIds.mk "n" 0).resumeAfter? tree.ids).map (·.source)

/-- The standard catalogs, with identifiers of their own. -/
def catalogs : Except Failure Catalogs :=
  match (Catalogs.standard.run (SequentialIds.mk "m" 0).source).1 with
  | .ok catalogs => .ok catalogs
  | .error error => .error (.brokenCatalogs error)

/-! ## Subcommands -/

/-- The term of a document, encoded, and the source that is left. -/
def encodeDocument?
    (kind : TermKind)
    (value : Json)
    (ids : IdSource) : Option (Tree × IdSource) :=
  match kind with
  | .claim => (Claim.ofJson? value).map fun term => term.encode.run ids
  | .observation => (Observation.ofJson? value).map fun term => term.encode.run ids
  | .inequality => (Inequality.ofJson? value).map fun term => term.encode.run ids

/-- The document of the term that a tree denotes. -/
def decodeDocument
    (kind : TermKind)
    (tree : Tree) : Except TreeError Json :=
  match kind with
  | .claim => tree.decodeClaim.map Claim.toJson
  | .observation => tree.decodeObservation.map Observation.toJson
  | .inequality => tree.decodeInequality.map Inequality.toJson

/-- Print the tree of a term. -/
def encode
    (environment : Environment)
    (ids : IdMode)
    (file : String)
    (kind : TermKind) : Except Failure Outcome := do
  let value <- environment.readJson file
  match encodeDocument? kind value (environment.idSource ids) with
  | none => throw (.malformedTerm kind)
  | some (tree, ids) =>
      if ids.overflowed then throw .counterOverflow else return .ofJson tree.toJson

/-- Print the term of a tree. -/
def decode
    (environment : Environment)
    (file : String)
    (kind : TermKind) : Except Failure Outcome := do
  let value <- environment.readJson file
  let tree <- loadTree value
  match decodeDocument kind tree with
  | .ok term => return .ofJson term
  | .error error => throw (.undecodable error true)

/-- Check a document against the schema and its tree against the grammar. -/
def validate
    (environment : Environment)
    (output : OutputFormat)
    (quiet : Bool)
    (file : String) : Except Failure Outcome := do
  let value <- environment.readJson file
  if !Schema.isNode value then
    throw (.invalidTree ["schema"])
  let tree <- loadTree value
  match tree.validate with
  | .error error => throw (.invalidTree [error.message])
  | .ok () =>
      let openSlots := (tree.walk.filter Tree.isPlaceholder).length
      if quiet then
        return {}
      match output with
      | .text =>
          if openSlots = 0 then
            return .ofLines ["valid (complete)"]
          else
            return .ofLines [s!"valid (incomplete: {openSlots} open slots)"]
      | .json =>
          let document : Json :=
            .object [("complete", .bool (openSlots == 0)), ("open_slots", .nat openSlots),
              ("valid", .bool true)]
          return .ofLines [document.compact]

mutual

/-- The lines of an outline of a tree; open slots end in a question mark. -/
def outline
    (depth : Nat) : Tree -> List String
  | ⟨id, tag, type, children, text, value⟩ =>
      let node : Tree := ⟨id, tag, type, children, text, value⟩
      (String.ofList (List.replicate (2 * depth) ' ') ++ node.label ++
        (if node.isPlaceholder then "?" else "") ++
        s!"  ({type.name} {id})") :: outlineAll (depth + 1) children
termination_by structural tree => tree

/-- The lines of an outline of several trees. -/
def outlineAll
    (depth : Nat) : List Tree -> List String
  | [] => []
  | tree :: rest => outline depth tree ++ outlineAll depth rest
termination_by structural trees => trees

end

/-- What is drawn for a node. -/
def nodeModel (node : Tree) : Json :=
  .object [("id", .string node.id), ("label", .string node.label),
    ("placeholder", .bool node.isPlaceholder), ("type", .string node.type.name)]

/-- What is drawn for a link. -/
def edgeModel (edge : Tree.Edge) : Json :=
  .object [("from", .string edge.source), ("position", .nat edge.position),
    ("to", .string edge.target)]

/-- What is drawn for a tree: its nodes in pre-order and its links. -/
def renderModel (tree : Tree) : Json :=
  .object [("edges", .array (tree.edges.map edgeModel)),
    ("nodes", .array (tree.walk.map nodeModel)), ("root", .string tree.id)]

/-- Print a tree as an outline or as what is drawn of it. -/
def present
    (environment : Environment)
    (output : OutputFormat)
    (file : String) : Except Failure Outcome := do
  let value <- environment.readJson file
  let tree <- loadTree value
  match output with
  | .text => return .ofLines (outline 0 tree)
  | .json => return .ofJson (renderModel tree)

/-- The catalog for a kind of term. -/
def catalogOf
    (catalogs : Catalogs) : TermKind -> Catalog
  | .claim => catalogs.claims
  | .observation => catalogs.observations
  | .inequality => catalogs.inequalities

/-- Print the menu for a kind of term. -/
def menu
    (output : OutputFormat)
    (kind : TermKind) : Except Failure Outcome := do
  let catalog := catalogOf (<- catalogs) kind
  match output with
  | .text => return .ofLines catalog.outline
  | .json => return .ofJson catalog.toJson

/-- The session that a script starts from. -/
def startSession
    (environment : Environment)
    (ids : IdMode)
    (catalogs : Catalogs) : Option String -> Except Failure Session
  | none => .ok (.blank catalogs (environment.idSource ids))
  | some file => do
      let value <- environment.readJson file
      let tree <- loadTree value
      match environment.idSourceAfter? tree ids with
      | none => throw .counterOverflow
      | some ids => return { root := tree, catalogs, ids }

/-- Run a script on a session and print the tree, or the claim that it denotes.
The number of draws only grows, so it tells at the end of the script, or at the
step that fails, whether the counter has overflowed on the way. -/
def editSession
    (session : Session)
    (steps : List Step)
    (submit : Bool) : Except Failure Outcome :=
  if (session.afterScript steps).ids.overflowed then
    .error .counterOverflow
  else
    match session.runScript 1 steps with
    | .error error => .error (.failedStep error)
    | .ok session =>
        if submit then
          match session.submit with
          | .ok claim => .ok (.ofJson claim.toJson)
          | .error error => .error (.undecodable error false)
        else
          .ok (.ofJson session.root.toJson)

/-- Run the script of a file on the tree of a file, or on an open slot. -/
def edit
    (environment : Environment)
    (ids : IdMode)
    (file : Option String)
    (script : String)
    (submit : Bool) : Except Failure Outcome := do
  let catalogs <- catalogs
  let scriptDocument <- environment.readJson script
  let steps <-
    match Step.listOfJson? scriptDocument with
    | some steps => pure steps
    | none => throw (.malformedScript script)
  let session <- startSession environment ids catalogs file
  editSession session steps submit

/-! ## The command line -/

/-- Run a task. -/
def runTask
    (environment : Environment)
    (invocation : Invocation) : Except Failure Outcome :=
  match invocation.task with
  | .encode file kind => encode environment invocation.ids file kind
  | .decode file kind => decode environment file kind
  | .validate file => validate environment invocation.output invocation.quiet file
  | .present file => present environment invocation.output file
  | .menu kind => menu invocation.output kind
  | .edit file script submit => edit environment invocation.ids file script submit

/-- Run a request. -/
def run
    (environment : Environment)
    (invocation : Invocation) : Outcome :=
  match runTask environment invocation with
  | .ok outcome => outcome
  | .error failure => failure.outcome invocation

/-- The outcome of arguments that ask for nothing to run. -/
def Stop.outcome : Stop -> Outcome
  | .refused => { exitCode := 2, report := .lines ["error: invalid arguments"] }
  | .version => .ofLines [versionText]
  | .help =>
      .ofLines ["Usage: payoff [OPTIONS] <encode|decode|validate|show|menu|edit> [ARGS]"]

/-- Run the command line on its arguments. -/
def runArguments
    (environment : Environment)
    (arguments : List String) : Outcome :=
  match parse arguments with
  | .ok invocation => run environment invocation
  | .error stop => stop.outcome

/-- The files that a task reads. -/
def Task.files : Task -> List String
  | .encode file _ => [file]
  | .decode file _ => [file]
  | .validate file => [file]
  | .present file => [file]
  | .menu _ => []
  | .edit file script _ => script :: file.toList

end Command
end ContingentClaims
