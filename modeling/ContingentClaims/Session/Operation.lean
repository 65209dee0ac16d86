import ContingentClaims.Session.LeafInput

/-!
# Operations of a session

Everything that can be done in a session, as one type, and what a session
answers. A session that is driven from outside is a list of operations applied
one after another.
-/

namespace ContingentClaims

/-- An operation on a session. -/
inductive Operation
  | openMenu (id : NodeId)
  | closeMenu
  | click (id : NodeId)
  | setLocked (locked : Bool)
  | hover (depth : Nat) (entry : NodeId)
  | expand (path : List NodeId)
  | select (entry : NodeId)
  | replace (id : NodeId) (subtree : Tree)
  | setLabel (id : NodeId) (label : String)
  | setLeaf (id : NodeId) (kind : LeafKind) (literal : String)

/-- What a session answers to an operation. -/
inductive Answer
  /-- Nothing, for an operation that cannot fail. -/
  | done
  /-- Whether the operation had an effect. -/
  | effect (took : Bool)
  /-- Typed input that was refused. -/
  | refused (error : LeafInputError)

namespace Session

/-- Apply an operation. -/
def perform
    (session : Session) : Operation -> Session × Answer
  | .openMenu id => (session.openMenu id, .done)
  | .closeMenu => (session.closeMenu, .done)
  | .click id => (session.click id, .done)
  | .setLocked locked => (session.setLocked locked, .done)
  | .hover depth entry =>
      let (session, took) := session.hover depth entry
      (session, .effect took)
  | .expand path =>
      let (session, took) := session.expand path
      (session, .effect took)
  | .select entry =>
      let (session, took) := session.select entry
      (session, .effect took)
  | .replace id subtree =>
      let (session, took) := session.replace id subtree
      (session, .effect took)
  | .setLabel id label =>
      let (session, took) := session.setLabel id label
      (session, .effect took)
  | .setLeaf id kind literal =>
      match session.setLeaf id kind literal with
      | (session, .ok took) => (session, .effect took)
      | (session, .error error) => (session, .refused error)

/-- Apply operations in order. -/
def performAll
    (session : Session)
    (operations : List Operation) : Session :=
  operations.foldl (fun session operation => (session.perform operation).1) session

@[simp] theorem performAll_nil (session : Session) :
    session.performAll [] = session := rfl

@[simp] theorem performAll_cons
    (session : Session)
    (operation : Operation)
    (rest : List Operation) :
    session.performAll (operation :: rest) =
      (session.perform operation).1.performAll rest := rfl

end Session
end ContingentClaims
