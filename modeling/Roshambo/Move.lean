/-! # Moves and how a pair of them is decided

A player picks one of three moves. `Move.beats` compares two moves and has no answer on a tie;
`resolve` reads the outcome off it from the first player's side. `resolve_swap` says that changing
sides turns a win into a loss and leaves a draw alone.
-/

namespace Roshambo

/-- The three moves, in the order in which they are listed to a player. -/
inductive Move where
  | rock
  | paper
  | scissors
deriving DecidableEq, Repr

namespace Move

def all : List Move := [rock, paper, scissors]

/-- The name under which a move is shown, logged and written as JSON. -/
def name : Move → String
  | rock => "Rock"
  | paper => "Paper"
  | scissors => "Scissors"

/-- The letter a player types to pick the move. -/
def code : Move → Char
  | rock => 'a'
  | paper => 'b'
  | scissors => 'c'

/-- The place of a move in `Move.all`, counted from zero. -/
def index : Move → Nat
  | rock => 0
  | paper => 1
  | scissors => 2

/-- Rock blunts scissors, scissors cut paper, paper wraps rock. -/
def defeats : Move → Move → Bool
  | rock, scissors | scissors, paper | paper, rock => true
  | _, _ => false

/-- Whether the first move wins over the second; a tie has no winner. -/
def beats (first second : Move) : Option Bool :=
  if first = second then none else some (first.defeats second)

theorem all_get_index (move : Move) : all[move.index]? = some move := by cases move <;> rfl

end Move

inductive Outcome where
  | win
  | loss
  | draw
deriving DecidableEq, Repr

namespace Outcome

def all : List Outcome := [win, loss, draw]

/-- The name under which an outcome is logged and written as JSON. -/
def name : Outcome → String
  | win => "Win"
  | loss => "Loss"
  | draw => "Draw"

/-- The text shown to the player once the round is decided. -/
def label : Outcome → String
  | win => "You won"
  | loss => "You lost"
  | draw => "Draw"

/-- The same round seen from the other side. -/
def swap : Outcome → Outcome
  | win => loss
  | loss => win
  | draw => draw

end Outcome

/-- The outcome of a round for the player who made the first move. -/
def resolve (player other : Move) : Outcome :=
  match player.beats other with
  | none => .draw
  | some true => .win
  | some false => .loss

theorem resolve_swap (player other : Move) :
    resolve other player = (resolve player other).swap := by
  cases player <;> cases other <;> rfl

end Roshambo
