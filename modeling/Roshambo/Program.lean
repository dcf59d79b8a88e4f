import Roshambo.Game

/-! # The program

The program plays one ordinary game. Its log shows errors only, so all that can appear there is one
line for a game that ended early; the game has then been given up, and that is no failure of the
program.

A program whose input is not known in advance is run again with every line that comes in: it
writes the same text as before and then goes on. `wantsLine` tells when there is a next line to wait
for.
-/

namespace Roshambo.Program

def shows (level : Level) : Bool := level == .error

/-- Play one ordinary game, and log it if it ends early. -/
def run (opponent : Opponent) (console : Console) : Console :=
  match Game.run .standard opponent console with
  | (.ok _, _, console) => console
  | (.error error, _, console) => { console with log := console.log ++ [.endedEarly error] }

def shownLog (console : Console) : List String :=
  (console.log.filter fun entry => shows entry.level).map LogEntry.line

/-- Whether a program came to the end of its input while it was waiting for a line. -/
def wantsLine (console : Console) : Bool :=
  console.log.any fun entry => entry == .closedAtExit || entry == .endedEarly .inputClosed

end Roshambo.Program
