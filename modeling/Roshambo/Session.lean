import Roshambo.Game

/-! # Sessions

A session goes through a list of steps with one console, one opponent and one set of texts. A step
is a single stage of a game or a whole game; a step that fails does not end the session. Each step
is answered by a `Report` of its result and of what it did to the console. `Session.run_append`
says that a session may be interrupted between any two steps.
-/

namespace Roshambo

/-- What can be asked of a session. -/
inductive Step where
  | welcome
  | readMove
  | announce (round : Round)
  | waitForClose
  | run
deriving DecidableEq, Repr

inductive Answer where
  | done
  | move (move : Move)
  | round (round : Round)
deriving DecidableEq, Repr

/-- What a step gave, wrote, took from the input, flushed and logged. -/
structure Report where
  result : Except GameError Answer
  output : List UInt8
  bytesRead : Nat
  flushes : Nat
  log : List LogEntry

/-- Everything that lasts from one step to the next. -/
structure Session where
  settings : Settings
  opponent : Opponent
  console : Console

namespace Session

def perform (session : Session) : Step → Except GameError Answer × Session
  | .welcome => alone (Action.welcome session.settings) fun _ => .done
  | .readMove => alone (Action.readMove session.settings) .move
  | .announce round => alone (Action.announce session.settings round) fun _ => .done
  | .waitForClose => alone (Action.waitForClose session.settings) fun _ => .done
  | .run =>
    let (result, opponent, console) := Game.run session.settings session.opponent session.console
    (result.map .round, { session with opponent, console })
where
  /-- An action in which the opponent has no part. -/
  alone {α : Type} (action : Action α) (answer : α → Answer) : Except GameError Answer × Session :=
    let (result, console) := action session.console
    (result.map answer, { session with console })

/-- The session with nothing written or logged yet. -/
def cleared (session : Session) : Session :=
  { session with
    console := { session.console with device := session.console.device.cleared, log := [] } }

def step (session : Session) (next : Step) : Report × Session :=
  let (result, after) := session.cleared.perform next
  ({ result
     output := after.console.device.output
     bytesRead := session.console.input.byteCount - after.console.input.byteCount
     flushes := after.console.device.flushes - session.console.device.flushes
     log := after.console.log }, after)

def run (session : Session) : List Step → List (Report × Session)
  | [] => []
  | next :: steps => session.step next :: run (session.step next).2 steps

def after (session : Session) (steps : List Step) : Session :=
  steps.foldl (fun session next => (session.step next).2) session

theorem run_append (session : Session) (first second : List Step) :
    session.run (first ++ second) = session.run first ++ (session.after first).run second := by
  induction first generalizing session with
  | nil => rfl
  | cons next first ih => exact congrArg (_ :: ·) (ih _)

end Session

end Roshambo
