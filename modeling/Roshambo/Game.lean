import Roshambo.Console.Prompting
import Roshambo.Opponent

/-! # One game

`Game.run` plays a round against an opponent. It falls into two parts: `choose` greets the player
and reads a move, `conclude` announces the round and waits to be closed. The opponent plays between
the two, once, and so has moved on exactly when a move was read, whatever happens afterwards.
-/

namespace Roshambo.Game

def choose (settings : Settings) : Action Move := do
  Action.welcome settings
  Action.readMove settings

/-- Log a round, announce it and wait to be closed. -/
def conclude (settings : Settings) (round : Round) : Action Round := do
  Action.remark [.finished round]
  Action.announce settings round
  Action.waitForClose settings
  return round

/-- Play one round; the opponent is given back as it is afterwards. -/
def run (settings : Settings) (opponent : Opponent) (console : Console) :
    Except GameError Round × Opponent × Console :=
  match choose settings console with
  | (.error error, console) => (.error error, opponent, console)
  | (.ok player, console) =>
    let (other, next) := opponent.play
    let concluded := (do
      Action.remark (opponent.remarks other)
      conclude settings (Round.ofMoves player other) : Action Round) console
    (concluded.1, next, concluded.2)

theorem run_of_choose_error {settings : Settings} {opponent : Opponent} {console after : Console}
    {error : GameError} (failed : choose settings console = (.error error, after)) :
    run settings opponent console = (.error error, opponent, after) := by
  rw [run, failed]

end Roshambo.Game
