import Roshambo.Opponent

/-! # Rosters

A roster seats several opponents, who share nothing. `Roster.play` lets them play in a given order
of seats; each turn records the seat, so the moves of one seat can be told from the others.
-/

namespace Roshambo

abbrev Roster (size : Nat) := Vector Opponent size

/-- One move, and the seat from which it was played. -/
structure Turn (size : Nat) where
  seat : Fin size
  move : Move
deriving DecidableEq, Repr

namespace Roster

variable {size : Nat}

/-- Let the opponents play in the given order of seats. -/
def play : List (Fin size) → Roster size → List (Turn size) × Roster size
  | [], roster => ([], roster)
  | seat :: order, roster =>
    let (move, opponent) := roster[seat].play
    let (turns, roster) := play order (roster.set seat opponent)
    (⟨seat, move⟩ :: turns, roster)

def movesOf (seat : Fin size) (turns : List (Turn size)) : List Move :=
  (turns.filter fun turn => turn.seat = seat).map Turn.move

def log (roster : Roster size) (turns : List (Turn size)) : List LogEntry :=
  turns.flatMap fun turn => roster[turn.seat].remarks turn.move

end Roster

end Roshambo
