import Roshambo.Round

/-! # The texts of a game

`Settings` holds the fixed texts of a game; what is printed is made from them here. A text is
printed as it stands: no character in it has a meaning of its own.
-/

namespace Roshambo

structure Settings where
  title : String
  prompt : String
  complaint : String
  opponentLead : String
  separator : String
  closePrompt : String
deriving DecidableEq, Repr

namespace Settings

def standard : Settings where
  title := "Welcome to Rock Paper Scissors"
  prompt := "Enter your choice (a for Rock, b for Paper, c for Scissors): "
  complaint := "Invalid input. Please choose a valid option."
  opponentLead := "The opponent chose"
  separator := "-------------------------"
  closePrompt := "Press enter to close"

def menuLine (move : Move) : String := move.code.toString ++ ": " ++ move.name ++ "\n"

/-- What is printed first: the title, then one line for each move. -/
def banner (settings : Settings) : String :=
  settings.title ++ "\n" ++ String.join (Move.all.map menuLine)

def complaintLine (settings : Settings) : String := settings.complaint ++ "\n"

def announcement (settings : Settings) (round : Round) : String :=
  settings.opponentLead ++ " " ++ round.other.name ++ "\n" ++ round.result.label ++ "\n"
    ++ settings.separator ++ "\n"

end Settings

end Roshambo
