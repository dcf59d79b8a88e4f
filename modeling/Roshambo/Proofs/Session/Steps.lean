import Roshambo.Proofs.Console.Composed
import Roshambo.Session

/-! # The steps of a session as actions

What a step gives and what it does to the console is one composed action (`Step.action`,
`composed_action`), whatever the opponent may be afterwards; the opponent moves on only in a step
that is a whole game and in which a move was picked (`perform_eq`).
-/

namespace Roshambo

namespace Step

/-- An action with its value made into an answer. -/
def answering {α : Type} (action : Action α) (answer : α → Answer) : Action Answer := do
  return answer (← action)

def action (settings : Settings) (opponent : Opponent) : Step → Action Answer
  | welcome => answering (Action.welcome settings) fun _ => .done
  | readMove => answering (Action.readMove settings) .move
  | announce round => answering (Action.announce settings round) fun _ => .done
  | waitForClose => answering (Action.waitForClose settings) fun _ => .done
  | run => answering (Game.play settings opponent) .round

theorem answering_apply {α : Type} (action : Action α) (answer : α → Answer) (console : Console) :
    answering action answer console = ((action console).1.map answer, (action console).2) := by
  rw [answering, Action.bind_apply]
  rcases action console with ⟨result, after⟩
  cases result <;> rfl

theorem composed_answering {α : Type} {action : Action α} (composed : Action.Composed action)
    (answer : α → Answer) : Action.Composed (answering action answer) :=
  .bind composed fun value => .pure (answer value)

theorem composed_action (settings : Settings) (opponent : Opponent) (step : Step) :
    Action.Composed (step.action settings opponent) := by
  cases step with
  | welcome => exact composed_answering (Action.composed_welcome settings) _
  | readMove => exact composed_answering (Action.composed_readMove settings) _
  | announce round => exact composed_answering (Action.composed_announce settings round) _
  | waitForClose => exact composed_answering (Action.composed_waitForClose settings) _
  | run => exact composed_answering (Game.composed_play settings opponent) _

end Step

namespace Session

def act (session : Session) (next : Step) : Except GameError Answer × Console :=
  next.action session.settings session.opponent session.console

def opponentAfter (session : Session) : Step → Opponent
  | .run => Game.opponentAfter session.settings session.opponent session.console
  | _ => session.opponent

theorem perform_eq (session : Session) (next : Step) :
    session.perform next = ((session.act next).1,
      { session with
          opponent := session.opponentAfter next, console := (session.act next).2 }) := by
  cases next with
  | run =>
    rw [perform, act, Step.action, Step.answering_apply, Game.run_eq]
    rfl
  | _ =>
    rw [perform, act, Step.action, Step.answering_apply]
    rfl

/-- A step is the action that it asks for, done with an empty record. -/
theorem step_eq (session : Session) (next : Step) :
    session.step next =
      ({ result := (session.cleared.act next).1
         output := (session.cleared.act next).2.device.output
         bytesRead := session.console.input.byteCount -
           (session.cleared.act next).2.input.byteCount
         flushes := (session.cleared.act next).2.device.flushes - session.console.device.flushes
         log := (session.cleared.act next).2.log },
        { session with
          opponent := session.cleared.opponentAfter next
          console := (session.cleared.act next).2 }) := by
  rw [step, perform_eq]
  rfl

theorem output_step (session : Session) (next : Step) :
    (session.step next).1.output = (session.cleared.act next).2.device.output := by rw [step_eq]

def reports (session : Session) (steps : List Step) : List Report :=
  (session.run steps).map Prod.fst

theorem reports_cons (session : Session) (next : Step) (steps : List Step) :
    session.reports (next :: steps) =
      (session.step next).1 :: (session.step next).2.reports steps := rfl

theorem reports_getElem? (session : Session) (steps : List Step) (index : Nat) :
    (session.reports steps)[index]? =
      steps[index]?.map fun next => ((session.after (steps.take index)).step next).1 := by
  induction steps generalizing session index with
  | nil => rfl
  | cons next steps ih =>
    cases index with
    | zero => rfl
    | succ index => exact ih (session.step next).2 index

end Session

namespace Report

def written (reports : List Report) : List UInt8 := reports.flatMap output

theorem written_cons (report : Report) (reports : List Report) :
    written (report :: reports) = report.output ++ written reports := List.flatMap_cons

end Report

end Roshambo
