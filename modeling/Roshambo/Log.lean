import Roshambo.Console.Fault
import Roshambo.Move.Code
import Roshambo.Round

/-! # The log of a game

Each entry records one event. `LogEntry.line` is its written form, the level before the text.
-/

namespace Roshambo

inductive Level where
  | error
  | info
  | debug
deriving DecidableEq, Repr

def Level.name : Level → String
  | error => "ERROR"
  | info => "INFO"
  | debug => "DEBUG"

/-- The events that are logged. -/
inductive LogEntry where
  | drawn (move : Move)
  | played (move : Move)
  | rejected (rejection : Rejection)
  | chosen (move : Move)
  | finished (round : Round)
  | closedAtExit
  | endedEarly (error : GameError)
deriving DecidableEq, Repr

namespace LogEntry

/-- A rejected line is worth a note, a game that ends early is an error. -/
def level : LogEntry → Level
  | rejected _ => .info
  | endedEarly _ => .error
  | _ => .debug

def text : LogEntry → String
  | drawn move => "Random strategy picked " ++ move.name
  | played move => "Opponent plays " ++ move.name
  | rejected rejection => "Rejected input: " ++ rejection.message
  | chosen move => "Player chose " ++ move.name
  | finished round => "Round finished: " ++ round.json
  | closedAtExit => "Input closed at exit prompt"
  | endedEarly error => "Game ended early: " ++ error.message

def line (entry : LogEntry) : String := entry.level.name ++ " " ++ entry.text

end LogEntry

end Roshambo
