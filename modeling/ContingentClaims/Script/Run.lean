import ContingentClaims.Script.Step
import ContingentClaims.Session.LeafInput

/-!
# Running editing scripts

The steps of a script act on a session one after another, and the first step
that fails ends the run. Menu entries are addressed by the labels that show in
the columns of the open menu.
-/

namespace ContingentClaims

/-- Why a step fails. -/
inductive StepError
  | noOpenSlot
  | noMenu (node : NodeId)
  | noEntryInColumn (label : String) (depth : Nat)
  | notACategory (label : String)
  | noEntryShowing (label : String)
  | selectionWithoutEffect (label : String)
  | emptyPath
  | inputWithoutEffect (node : NodeId)
  | replacementWithoutEffect (node : NodeId)
  | labelWithoutEffect (node : NodeId)
  | refusedInput (error : LeafInputError)

namespace StepError

/-- The failure in words. -/
def message : StepError -> String
  | noOpenSlot => "no open slot left"
  | noMenu node => s!"no menu for node {node}"
  | noEntryInColumn label depth => s!"no menu entry '{label}' in column {depth}"
  | notACategory label => s!"'{label}' is not a category"
  | noEntryShowing label => s!"no menu entry '{label}' is showing"
  | selectionWithoutEffect label => s!"selecting '{label}' had no effect"
  | emptyPath => "empty menu path"
  | inputWithoutEffect node => s!"leaf input on {node} had no effect"
  | replacementWithoutEffect node => s!"replacing {node} had no effect"
  | labelWithoutEffect node => s!"relabelling {node} had no effect"
  | refusedInput error => error.message

end StepError

namespace Session

/-- The first open slot in pre-order. -/
def firstSlot? (session : Session) : Option NodeId :=
  (session.root.walk.find? Tree.isPlaceholder).map (·.id)

/-- The node that a step acts on: the one it names, or else the first open slot. -/
def targetOf
    (session : Session) : Option NodeId -> Except StepError NodeId
  | some id => .ok id
  | none =>
      match session.firstSlot? with
      | some id => .ok id
      | none => .error .noOpenSlot

/-- Success of an operation that took effect. -/
def requireEffect
    (error : StepError) : Session × Bool -> Except StepError Session
  | (session, true) => .ok session
  | (_, false) => .error error

/-- Open the menu of a node, and fail if it does not open. -/
def openMenuOf
    (session : Session)
    (node : Option NodeId) : Except StepError Session := do
  let id <- session.targetOf node
  let session := session.openMenu id
  if session.openNode = some id then return session else throw (.noMenu id)

/-- Expand the category with a label in a column. -/
def hoverLabel
    (session : Session)
    (depth : Nat)
    (label : String) : Except StepError Session :=
  match (session.menuColumns[depth]?).bind (entryLabelled? · label) with
  | none => .error (.noEntryInColumn label depth)
  | some entry => requireEffect (.notACategory label) (session.hover depth entry.id)

/-- Choose the entry with a label in the last column. -/
def selectLabel
    (session : Session)
    (label : String) : Except StepError Session :=
  match session.menuColumns.getLast?.bind (entryLabelled? · label) with
  | none => .error (.noEntryShowing label)
  | some entry =>
      requireEffect (.selectionWithoutEffect label) (session.select entry.id)

/-- Expand the categories of a path from a column on and choose its last entry. -/
def choosePath
    (session : Session)
    (depth : Nat) : List String -> Except StepError Session
  | [] => .error .emptyPath
  | [label] => session.selectLabel label
  | label :: rest => do
      let session <- session.hoverLabel depth label
      session.choosePath (depth + 1) rest

/-- Perform a step. -/
def performStep
    (session : Session) : Step -> Except StepError Session
  | .openMenu node => session.openMenuOf node
  | .hover depth label => session.hoverLabel depth label
  | .select label => session.selectLabel label
  | .choose node path => do
      let session <- session.openMenuOf node
      session.choosePath 0 path
  | .set node kind literal => do
      let id <- session.targetOf node
      match session.setLeaf id kind literal with
      | (session, .ok took) => requireEffect (.inputWithoutEffect id) (session, took)
      | (_, .error error) => throw (.refusedInput error)
  | .replace node tree => do
      let id <- session.targetOf node
      requireEffect (.replacementWithoutEffect id) (session.replace id tree)
  | .relabel node label =>
      requireEffect (.labelWithoutEffect node) (session.setLabel node label)
  | .close => .ok session.closeMenu
  | .lock => .ok (session.setLocked true)

end Session

/-- A step that failed, with its number in the script. -/
structure ScriptError where
  number : Nat
  step : Step
  error : StepError

/-- The failure of a script in words. -/
def ScriptError.message (failure : ScriptError) : String :=
  s!"step {failure.number} ({failure.step.describe}): {failure.error.message}"

namespace Session

/-- Perform the steps of a script, the first one having the given number. -/
def runScript
    (session : Session)
    (number : Nat) : List Step -> Except ScriptError Session
  | [] => .ok session
  | step :: rest =>
      match session.performStep step with
      | .error error => .error { number, step, error }
      | .ok session => session.runScript (number + 1) rest

end Session
end ContingentClaims
