import Roshambo.Move

/-! # Rounds

A round records both moves and an outcome. `Round.ofMoves` decides the outcome from the moves;
a round that came from elsewhere may name any outcome, and `Round.IsConsistent` says whether it is
the one that the moves decide. `Round.json` is the compact form in which a round is logged.
-/

namespace Roshambo

/-- Two moves and the outcome for the player who made the first of them. -/
structure Round where
  player : Move
  other : Move
  result : Outcome
deriving DecidableEq, Repr

namespace Round

def ofMoves (player other : Move) : Round := ⟨player, other, resolve player other⟩

/-- Whether the recorded outcome is the one that the moves decide. -/
def IsConsistent (round : Round) : Prop := round = ofMoves round.player round.other

instance (round : Round) : Decidable round.IsConsistent :=
  inferInstanceAs (Decidable (round = ofMoves round.player round.other))

/-- The names of the three fields, in the order in which they are written. -/
inductive Field where
  | player
  | other
  | result
deriving DecidableEq, Repr

def Field.key : Field → String
  | player => "player_move"
  | other => "other_move"
  | result => "result"

def Field.ofKey? (key : String) : Option Field :=
  [player, other, result].find? fun field => field.key == key

theorem Field.ofKey?_key (field : Field) : ofKey? field.key = some field := by
  cases field <;> rfl

def fieldName (round : Round) : Field → String
  | .player => round.player.name
  | .other => round.other.name
  | .result => round.result.name

def jsonMember (round : Round) (field : Field) : String :=
  "\"" ++ field.key ++ "\":\"" ++ round.fieldName field ++ "\""

/-- The compact JSON form: an object with the three fields in their order. -/
def json (round : Round) : String :=
  "\x7b" ++ round.jsonMember .player ++ "," ++ round.jsonMember .other ++ ","
    ++ round.jsonMember .result ++ "\x7d"

def debug (round : Round) : String :=
  "RoundResult \x7b player_move: " ++ round.player.name ++ ", other_move: " ++ round.other.name
    ++ ", result: " ++ round.result.name ++ " \x7d"

end Round

end Roshambo
