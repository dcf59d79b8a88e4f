import Roshambo.Console.Script

/-! # The lines of a script

A script is read line by line. `Script.line` is how the reading of one of its lines ends, counted
from zero, and `Script.after` is what is left behind a number of them. Every script runs out of
lines with bytes in them (`exists_no_bytes`).
-/

namespace Roshambo.Script

/-- What is left of a script after a number of lines. -/
def after : Nat → Script → Script
  | 0, script => script
  | count + 1, script => after count script.readLine.2

/-- How the reading of a line ends, counted from zero. -/
def line (place : Nat) (script : Script) : Except Fault (List UInt8) :=
  (script.after place).readLine.1

theorem after_add (first second : Nat) (script : Script) :
    script.after (first + second) = (script.after first).after second := by
  induction first generalizing script with
  | zero => rw [Nat.zero_add]; rfl
  | succ first ih => rw [Nat.succ_add]; exact ih script.readLine.2

theorem line_add (first second : Nat) (script : Script) :
    script.line (first + second) = (script.after first).line second := by
  rw [line, line, after_add]

/-- Some line of every script is no line with bytes in it. -/
theorem exists_no_bytes (script : Script) :
    ∃ place, ∀ bytes, script.line place = .ok bytes → bytes = [] := by
  generalize size : script.byteCount = count
  induction count using Nat.strongRecOn generalizing script with
  | ind count ih =>
    rcases read : script.readLine with ⟨result, rest⟩
    have first : script.line 0 = result := congrArg Prod.fst read
    match result with
    | .error fault => exact ⟨0, fun bytes same => by rw [first] at same; cases same⟩
    | .ok [] => exact ⟨0, fun bytes same => by rw [first] at same; cases same; rfl⟩
    | .ok (byte :: bytes) =>
      have less := readLine_ok_length read
      rw [List.length_cons] at less
      obtain ⟨place, empty⟩ := ih rest.byteCount (by omega) rest rfl
      refine ⟨1 + place, ?_⟩
      intro bytes same
      have left : script.after 1 = rest := congrArg Prod.snd read
      rw [line_add, left] at same
      exact empty bytes same

end Roshambo.Script
