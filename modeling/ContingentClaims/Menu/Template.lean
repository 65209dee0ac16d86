import ContingentClaims.Ids.Source

/-!
# Templates

The ready-made pieces of tree that a menu offers: one for each constructor of a
term, and larger ones for common contracts. A template draws fresh identifiers,
a node before its children, and leaves every open operand as a placeholder of
the right type.
-/

namespace ContingentClaims

/-- A piece of tree with fresh identifiers. -/
abbrev Template : Type :=
  Fresh Tree

namespace Template

/-- The label of the alternative that a template leaves open. -/
def exerciseLabel : String := "Exercise"

/-- The label of the alternative of walking away. -/
def expireLabel : String := "Expire"

/-! ## Building blocks -/

/-- An open slot. -/
def hole (type : NodeType) : Template := do
  return .placeholder (<- Fresh.id) type

/-- Open slots of the given types, in order. -/
def holes : List NodeType -> Fresh (List Tree)
  | [] => return []
  | type :: rest => do
      let first <- hole type
      return first :: (<- holes rest)

/-- A template with a text on its root. -/
def labelled
    (template : Template)
    (label : String) : Template := do
  return (<- template).withText label

/-- A claim node over open slots. -/
def claimOver
    (tag : ClaimTag)
    (slots : List NodeType) : Template := do
  let id <- Fresh.id
  return .claim id tag (<- holes slots)

/-- An observation node over open slots. -/
def observationOver
    (tag : ObservationTag)
    (slots : List NodeType) : Template := do
  let id <- Fresh.id
  return .observation id tag (<- holes slots)

/-- An inequality node over open slots. -/
def inequalityOver
    (tag : InequalityTag)
    (slots : List NodeType) : Template := do
  let id <- Fresh.id
  return .inequality id tag (<- holes slots)

/-! ## Observations and inequalities -/

/-- A constant with an open number. -/
def const : Template := observationOver .const [.value]

/-- The current value of an open key. -/
def observe : Template := observationOver .observe [.value]

/-- A sum of open operands. -/
def add : Template := observationOver .add [.observation, .observation]

/-- A difference of open operands. -/
def sub : Template := observationOver .sub [.observation, .observation]

/-- The negation of an open operand. -/
def neg : Template := observationOver .neg [.observation]

/-- A product of open operands. -/
def mul : Template := observationOver .mul [.observation, .observation]

/-- A quotient of open operands. -/
def div : Template := observationOver .div [.observation, .observation]

/-- From an open date on. -/
def timeGte : Template := inequalityOver .timeGte [.value]

/-- A comparison of open operands. -/
def lte : Template := inequalityOver .lte [.observation, .observation]

/-- A comparison of two given observations. -/
def lteOf (left right : Template) : Template := do
  let id <- Fresh.id
  return .inequality id .lte [<- left, <- right]

/-! ## Primitive claims -/

/-- The claim without payoff. -/
def zero : Template := claimOver .zero []

/-- One unit of an open asset. -/
def one : Template := claimOver .one [.value]

/-- The obligation to an open claim. -/
def give : Template := claimOver .give [.claim]

/-- Two open claims together. -/
def and : Template := claimOver .and [.claim, .claim]

/-- Two open alternatives, labelled like an election. -/
def or : Template := do
  let id <- Fresh.id
  return .claim id .or
    [<- labelled (hole .claim) exerciseLabel, <- labelled (hole .claim) expireLabel]

/-- An open condition with open claims for both cases. -/
def cond : Template := claimOver .cond [.inequality, .claim, .claim]

/-- An open claim times an open observation. -/
def scale : Template := claimOver .scale [.observation, .claim]

/-- An open claim acquired under an open condition. -/
def whenHolds : Template := claimOver .whenHolds [.inequality, .claim]

/-- An open claim that lapses under an open condition. -/
def untilHolds : Template := claimOver .untilHolds [.inequality, .claim]

/-- An open claim to elect under an open condition, labelled like an exercise. -/
def anytime : Template := do
  let id <- Fresh.id
  return .claim id .anytime
    [<- hole .inequality, <- labelled (hole .claim) exerciseLabel]

/-! ## Exercise -/

/-- Exercisable on a date only. -/
def european : Template := do
  let id <- Fresh.id
  return .claim id .whenHolds [<- timeGte, <- hole .claim]

/-- Exercisable at any time from a date on. -/
def perpetual : Template := do
  let id <- Fresh.id
  return .claim id .anytime [<- timeGte, <- labelled (hole .claim) exerciseLabel]

/-- Exercisable at any time from a date on until expiry. -/
def american : Template := do
  let id <- Fresh.id
  return .claim id .untilHolds [<- timeGte, <- perpetual]

/-! ## Election -/

/-- A claim that comes into being if one observation is at most the other. -/
def knockIn (left right body : Template) : Template := do
  let id <- Fresh.id
  return .claim id .cond [<- lteOf left right, <- body, <- zero]

/-- A claim that the holder may take or let expire. -/
def election (exercise : Template) : Template := do
  let id <- Fresh.id
  return .claim id .or
    [<- labelled exercise exerciseLabel, <- labelled zero expireLabel]

/-- Knocks in when the observation reaches the barrier. -/
def autoCall : Template := knockIn const observe (hole .claim)

/-- Knocks in when the observation falls to the barrier. -/
def autoPut : Template := knockIn observe const (hole .claim)

/-- The holder chooses between exercising and letting the claim expire. -/
def elected : Template := election (hole .claim)

/-! ## Settlement -/

/-- Receive the underlying and pay the strike. -/
def physical : Template := do
  let id <- Fresh.id
  let underlying <- one
  let giveId <- Fresh.id
  let scaleId <- Fresh.id
  let payment := Tree.claim scaleId .scale [<- const, <- one]
  return .claim id .and [underlying, .claim giveId .give [payment]]

/-- Pay a difference in units of a settlement currency. -/
def cashSettled (left right : Template) : Template := do
  let id <- Fresh.id
  let differenceId <- Fresh.id
  let difference :=
    (Tree.observation differenceId .add [<- left, <- right]).withText Tree.differenceMark
  return .claim id .scale [difference, <- one]

/-- Pay the observation less the strike. -/
def cashCall : Template := cashSettled observe const

/-- Pay the strike less the observation. -/
def cashPut : Template := cashSettled const observe

/-- Pay any observation in units of a settlement currency. -/
def cashGeneric : Template := do
  let id <- Fresh.id
  return .claim id .scale [<- hole .observation, <- one]

/-! ## Payoffs -/

/-- A barrier from below that pays a call in cash. -/
def autoCallCash : Template := knockIn const observe cashCall

/-- A barrier from above that pays a put in cash. -/
def autoPutCash : Template := knockIn observe const cashPut

/-- The option of physical delivery. -/
def electedPhysical : Template := election physical

end Template
end ContingentClaims
