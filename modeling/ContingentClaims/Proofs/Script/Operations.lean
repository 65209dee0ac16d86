import ContingentClaims.Proofs.Script.Choice
import ContingentClaims.Script.Operations

/-!
# What the operations of a script leave

The session that a step leaves is the one that its operations leave, and so is the session
that a script leaves (`runScript_eq_afterScript`): what holds of every run of operations holds
of every script.
-/

namespace ContingentClaims
namespace Session

theorem pathOperations_cons
    (session : Session)
    (depth : Nat)
    (label next : String)
    (rest : List String) :
    session.pathOperations depth (label :: next :: rest) =
      session.hoverOperations depth label ++
        match session.hoverLabel depth label with
        | .ok later => later.pathOperations (depth + 1) (next :: rest)
        | .error _ => [] := rfl

theorem openMenuOf_eq_performAll
    {session later : Session}
    {node : Option NodeId}
    (opened : session.openMenuOf node = .ok later) :
    later = session.performAll (session.onTarget node .openMenu) := by
  rw [openMenuOf] at opened
  cases target : session.targetOf node with
  | error error =>
      rw [target] at opened
      cases opened
  | ok id =>
      rw [target] at opened
      simp only [onTarget, target]
      simp only [bind, Except.bind] at opened
      split at opened
      next isOpen => exact (Except.ok.inj opened).symm
      next isClosed => cases opened

theorem hoverLabel_eq_performAll
    {session later : Session}
    {depth : Nat}
    {label : String}
    (hovered : session.hoverLabel depth label = .ok later) :
    later = session.performAll (session.hoverOperations depth label) := by
  rw [hoverLabel] at hovered
  rw [hoverOperations]
  cases shown : (session.menuColumns[depth]?).bind (entryLabelled? · label) with
  | none =>
      rw [shown] at hovered
      cases hovered
  | some entry =>
      rw [shown] at hovered
      have took := (requireEffect_eq_ok_iff _ _ _).1 hovered
      exact (congrArg Prod.fst took).symm

theorem selectLabel_eq_performAll
    {session later : Session}
    {label : String}
    (selected : session.selectLabel label = .ok later) :
    later = session.performAll (session.selectOperations label) := by
  rw [selectLabel] at selected
  rw [selectOperations]
  cases shown : session.menuColumns.getLast?.bind (entryLabelled? · label) with
  | none =>
      rw [shown] at selected
      cases selected
  | some entry =>
      rw [shown] at selected
      have took := (requireEffect_eq_ok_iff _ _ _).1 selected
      exact (congrArg Prod.fst took).symm

theorem choosePath_eq_performAll
    {session later : Session}
    {depth : Nat}
    {path : List String}
    (chosen : session.choosePath depth path = .ok later) :
    later = session.performAll (session.pathOperations depth path) := by
  induction path generalizing session depth with
  | nil => cases chosen
  | cons label rest restHypothesis =>
      cases rest with
      | nil => exact selectLabel_eq_performAll chosen
      | cons next rest =>
          rw [choosePath_cons] at chosen
          cases hovered : session.hoverLabel depth label with
          | error error =>
              rw [hovered] at chosen
              cases chosen
          | ok expanded =>
              rw [hovered] at chosen
              rw [pathOperations_cons, hovered, performAll_append,
                ← hoverLabel_eq_performAll hovered]
              exact restHypothesis chosen

/-- A step that succeeds leaves what its operations leave. -/
theorem performStep_eq_performAll
    {session later : Session}
    {step : Step}
    (performed : session.performStep step = .ok later) :
    later = session.performAll (session.stepOperations step) := by
  cases step with
  | openMenu node => exact openMenuOf_eq_performAll performed
  | hover depth label => exact hoverLabel_eq_performAll performed
  | select label => exact selectLabel_eq_performAll performed
  | choose node path =>
      rw [performStep] at performed
      cases opened : session.openMenuOf node with
      | error error =>
          rw [opened] at performed
          cases performed
      | ok withMenu =>
          rw [opened] at performed
          rw [stepOperations, opened, performAll_append, ← openMenuOf_eq_performAll opened]
          exact choosePath_eq_performAll performed
  | set node kind literal =>
      rw [performStep] at performed
      cases target : session.targetOf node with
      | error error =>
          rw [target] at performed
          cases performed
      | ok id =>
          rw [target] at performed
          simp only [stepOperations, onTarget, target]
          change later = (session.perform (.setLeaf id kind literal)).1
          rw [perform_setLeaf]
          simp only [bind, Except.bind] at performed
          split at performed
          next after took typed =>
            have effect := (requireEffect_eq_ok_iff _ _ _).1 performed
            rw [typed]
            exact (congrArg Prod.fst effect).symm
          next after error refused => cases performed
  | replace node tree =>
      rw [performStep] at performed
      cases target : session.targetOf node with
      | error error =>
          rw [target] at performed
          cases performed
      | ok id =>
          rw [target] at performed
          have took := (requireEffect_eq_ok_iff _ _ _).1 performed
          simp only [stepOperations, onTarget, target]
          exact (congrArg Prod.fst took).symm
  | relabel node label =>
      have took := (requireEffect_eq_ok_iff _ _ _).1 performed
      exact (congrArg Prod.fst took).symm
  | close => exact (Except.ok.inj performed).symm
  | lock => exact (Except.ok.inj performed).symm

/-- A script that succeeds leaves what its operations leave. -/
theorem runScript_eq_afterScript
    {session later : Session}
    {number : Nat}
    {steps : List Step}
    (ran : session.runScript number steps = .ok later) :
    later = session.afterScript steps := by
  induction steps generalizing session number with
  | nil => exact (Except.ok.inj ran).symm
  | cons step rest restHypothesis =>
      rw [runScript] at ran
      cases performed : session.performStep step with
      | error error =>
          rw [performed] at ran
          cases ran
      | ok next =>
          rw [performed] at ran
          rw [afterScript, scriptOperations, performed, performAll_append,
            ← performStep_eq_performAll performed]
          exact restHypothesis ran

end Session
end ContingentClaims
