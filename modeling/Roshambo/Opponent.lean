import Roshambo.Cycle
import Roshambo.Log
import Roshambo.Random.Draw

/-! # Opponents

An opponent always plays one move, draws its moves from a word generator, or follows a script.
`Opponent.play` gives the next move and the opponent as it is afterwards; nothing else about a game
reaches it. `Opponent.moves` lists what a lone opponent plays in turn.
-/

namespace Roshambo

inductive Opponent where
  | always (move : Move)
  | random (generator : Random.Generator)
  | scripted (moves : Cycle Move)

namespace Opponent

/-- The random opponent of a 64-bit seed, over the keyed stream. -/
def seeded (seed : UInt64) : Opponent := .random (.keyed (.ofSeed seed))

/-- The random opponent of a 64-bit seed, over the small stirred state. -/
def seededSmall (seed : UInt64) : Opponent := .random (.stirred (.ofSeed seed))

/-- The next move, and the opponent after it. -/
def play : Opponent → Move × Opponent
  | always move => (move, always move)
  | random generator => ((Random.draw generator).1, random (Random.draw generator).2)
  | scripted moves => (moves.next.1, scripted moves.next.2)

def isRandom : Opponent → Bool
  | random _ => true
  | _ => false

/-- What is logged when the opponent plays a move. -/
def remarks (opponent : Opponent) (move : Move) : List LogEntry :=
  if opponent.isRandom then [.drawn move, .played move] else [.played move]

/-- How many words have been drawn from a given list; no other opponent counts them. -/
def wordsDrawn? : Opponent → Option Nat
  | random generator => generator.taken?
  | _ => none

/-- The opponent after it has played a number of moves. -/
def advance : Nat → Opponent → Opponent
  | 0, opponent => opponent
  | count + 1, opponent => advance count opponent.play.2

def moves : Nat → Opponent → List Move
  | 0, _ => []
  | count + 1, opponent => opponent.play.1 :: moves count opponent.play.2

theorem length_moves (count : Nat) (opponent : Opponent) :
    (moves count opponent).length = count := by
  induction count generalizing opponent with
  | zero => rfl
  | succ count ih => exact congrArg (· + 1) (ih opponent.play.2)

end Opponent

end Roshambo
