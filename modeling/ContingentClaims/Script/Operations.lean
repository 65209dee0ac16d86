import ContingentClaims.Script.Run
import ContingentClaims.Session.Operation

/-!
# Scripts as operations

A step performs operations on the session one after another, until one of them has not the
effect that the step requires. Here these are listed, also those of a step that fails, so
that the session is known in which a script ends or fails.
-/

namespace ContingentClaims
namespace Session

/-- An operation on the node that a step acts on, if there is one. -/
def onTarget
    (session : Session)
    (node : Option NodeId)
    (operation : NodeId -> Operation) : List Operation :=
  ((session.targetOf node).toOption.map operation).toList

/-- An operation on an entry that shows, if there is one. -/
def onEntry
    (choice? : Option MenuEntry)
    (operation : NodeId -> Operation) : List Operation :=
  (choice?.map fun entry => operation entry.id).toList

/-- Hover over the entry with a label in a column. -/
def hoverOperations
    (session : Session)
    (depth : Nat)
    (label : String) : List Operation :=
  onEntry ((session.menuColumns[depth]?).bind (entryLabelled? · label)) (.hover depth)

/-- Select the entry with a label in the last column. -/
def selectOperations
    (session : Session)
    (label : String) : List Operation :=
  onEntry (session.menuColumns.getLast?.bind (entryLabelled? · label)) .select

/-- Expand the categories of a path as far as they can be, and select its last entry. -/
def pathOperations
    (session : Session)
    (depth : Nat) : List String -> List Operation
  | [] => []
  | [label] => session.selectOperations label
  | label :: rest =>
      session.hoverOperations depth label ++
        match session.hoverLabel depth label with
        | .ok later => later.pathOperations (depth + 1) rest
        | .error _ => []

/-- The operations of a step, up to the one that has no effect if the step fails. -/
def stepOperations
    (session : Session) : Step -> List Operation
  | .openMenu node => session.onTarget node .openMenu
  | .hover depth label => session.hoverOperations depth label
  | .select label => session.selectOperations label
  | .choose node path =>
      session.onTarget node .openMenu ++
        match session.openMenuOf node with
        | .ok later => later.pathOperations 0 path
        | .error _ => []
  | .set node kind literal => session.onTarget node (.setLeaf · kind literal)
  | .replace node tree => session.onTarget node (.replace · tree)
  | .relabel node label => [.setLabel node label]
  | .close => [.closeMenu]
  | .lock => [.setLocked true]

/-- The operations of a script, up to and including those of the step that fails. -/
def scriptOperations
    (session : Session) : List Step -> List Operation
  | [] => []
  | step :: rest =>
      session.stepOperations step ++
        match session.performStep step with
        | .ok later => later.scriptOperations rest
        | .error _ => []

/-- The session when a script ends or fails. -/
def afterScript
    (session : Session)
    (steps : List Step) : Session :=
  session.performAll (session.scriptOperations steps)

end Session
end ContingentClaims
