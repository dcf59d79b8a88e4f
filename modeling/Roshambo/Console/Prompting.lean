import Roshambo.Console
import Roshambo.Console.Settings

/-! # What a game does on a console

`welcome`, `readMove`, `announce` and `waitForClose` are the stages of a game. `readMove` asks until
a line picks a move; each line that does not is logged before the player is told, and the next
prompt follows. It ends on any input, because a rejected line has at least one byte and so leaves
less to read (`attempt_none_bytes_lt`).
-/

namespace Roshambo.Action

def welcome (settings : Settings) : Action Unit := print settings.banner

/-- Take a line as the player's choice: the move, or no move once the player has been told. A line
without bytes means that the input is closed. -/
def judge (settings : Settings) (line : List UInt8) : Action (Option Move) :=
  if line = [] then fail .inputClosed
  else
    match Move.ofTyped (Text.decode line) with
    | .ok move => do
      remark [.chosen move]
      return some move
    | .error rejection => do
      remark [.rejected rejection]
      print settings.complaintLine
      return none

def attempt (settings : Settings) : Action (Option Move) := do
  let line ← ask settings.prompt
  judge settings line

private theorem judge_none_input {settings : Settings} {line : List UInt8} {console after : Console}
    (judged : judge settings line console = (.ok none, after)) :
    line ≠ [] ∧ after.input = console.input := by
  unfold judge at judged
  split at judged
  · cases judged
  next nonempty =>
    refine ⟨nonempty, ?_⟩
    cases typed : Move.ofTyped (Text.decode line) with
    | ok move => rw [typed] at judged; cases judged
    | error rejection =>
      rw [typed] at judged
      simp only [bind_apply, remark, print] at judged
      rcases written : console.device.write (Text.encode settings.complaintLine) with
        ⟨result, device⟩
      rw [written] at judged
      cases result with
      | ok => cases judged; rfl
      | error fault => cases judged

/-- An attempt that picks no move has taken at least one byte of the input. -/
theorem attempt_none_bytes_lt {settings : Settings} {console after : Console}
    (tried : attempt settings console = (.ok none, after)) :
    after.input.byteCount < console.input.byteCount := by
  rw [attempt, bind_apply] at tried
  split at tried
  next line asked ask_eq =>
    obtain ⟨nonempty, same⟩ := judge_none_input tried
    have total := ask_ok_length ask_eq
    have positive := List.length_pos_iff.mpr nonempty
    rw [same]
    omega
  next => cases tried

/-- Ask for a move until a line picks one. -/
def readMove (settings : Settings) : Action Move := fun console =>
  match _ : attempt settings console with
  | (.ok (some move), after) => (.ok move, after)
  | (.ok none, after) => readMove settings after
  | (.error error, after) => (.error error, after)
termination_by console => console.input.byteCount
decreasing_by exact attempt_none_bytes_lt ‹_›

/-- Print the opponent's move and the outcome of a round. -/
def announce (settings : Settings) (round : Round) : Action Unit :=
  print (settings.announcement round)

/-- Ask for a last line of any kind; a closed input will do as well. -/
def waitForClose (settings : Settings) : Action Unit := do
  let line ← ask settings.closePrompt
  if line = [] then remark [.closedAtExit]

end Roshambo.Action
