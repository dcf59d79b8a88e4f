import Roshambo.Console.Prompting
import Roshambo.Proofs.Console.Writing

/-! # Printing in parts

A text may be printed in one go or part by part: the console ends up the same, and so does the
action, whatever the device takes and wherever it fails (`print_join`). The stages of a game print
each of their texts at once; that is what they would do line by line (`welcome_eq`, `announce_eq`).
-/

namespace Roshambo.Action

theorem print_empty (console : Console) : print "" console = (.ok (), console) := by
  have nothing : Text.encode "" = [] := rfl
  rw [print, nothing, Device.write_nil]
  rfl

theorem print_append (first second : String) :
    print (first ++ second) = (do
      print first
      print second) := by
  funext console
  rw [bind_apply, print, print, Text.encode_append, Device.write_append]
  rcases console.device.write (Text.encode first) with ⟨result, after⟩
  cases result <;> rfl

/-- However a text is cut into parts, it may be printed part by part. -/
theorem print_join (texts : List String) : print (String.join texts) = texts.forM print := by
  induction texts with
  | nil => funext console; exact print_empty console
  | cons text rest ih =>
    rw [String.join_cons, print_append, ih]
    rfl

/-- The title is a line of its own, and so is each move. -/
theorem welcome_eq (settings : Settings) :
    welcome settings = (do
      print (settings.title ++ "\n")
      (Move.all.map Settings.menuLine).forM print) := by
  rw [welcome, Settings.banner, print_append, print_join]

/-- The opponent's move, the outcome and the separator are three lines. -/
theorem announce_eq (settings : Settings) (round : Round) :
    announce settings round = (do
      print (settings.opponentLead ++ " " ++ round.other.name ++ "\n")
      print (round.result.label ++ "\n")
      print (settings.separator ++ "\n")) := by
  have lines : settings.announcement round =
      settings.opponentLead ++ " " ++ round.other.name ++ "\n" ++
        ((round.result.label ++ "\n") ++ (settings.separator ++ "\n")) := by
    simp only [Settings.announcement, String.append_assoc]
  rw [announce, lines, print_append, print_append _ (settings.separator ++ "\n")]

end Roshambo.Action
