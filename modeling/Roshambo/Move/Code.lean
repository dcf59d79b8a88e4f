import Roshambo.Move
import Roshambo.Text.Blank
import Roshambo.Text.Quoted

/-! # Typed move codes

A player picks a move by typing its code in either case, with any blank characters around it.
`Move.ofTyped` reads such a text and otherwise hands the whole text back, unchanged, as a
`Rejection` that can say what was wrong.
-/

namespace Roshambo

/-- A text that is no move code, exactly as it was typed. -/
structure Rejection where
  typed : String
deriving DecidableEq, Repr

/-- The rejected text in quotes, and what is wrong with it. -/
def Rejection.message (rejection : Rejection) : String :=
  Text.quote rejection.typed ++ " is not a valid move code"

namespace Move

/-- Whether a character is the code of the move or its capital. -/
def answersTo (move : Move) (c : Char) : Bool := c.toLower == move.code

/-- The move picked by a text that holds one character and nothing else. -/
def ofCode? : List Char → Option Move
  | [c] => all.find? fun move => move.answersTo c
  | _ => none

/-- The move picked by a typed text. -/
def ofTyped (typed : String) : Except Rejection Move :=
  match ofCode? (Text.trim typed.toList) with
  | some move => .ok move
  | none => .error ⟨typed⟩

theorem typed_of_ofTyped_error {typed : String} {rejection : Rejection}
    (rejected : ofTyped typed = .error rejection) : rejection.typed = typed := by
  unfold ofTyped at rejected
  split at rejected
  · cases rejected
  · cases rejected
    rfl

end Move

end Roshambo
