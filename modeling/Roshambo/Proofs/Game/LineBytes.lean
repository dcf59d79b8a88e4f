import Roshambo.Proofs.Game.Choosing
import Roshambo.Proofs.Move.Spelling
import Roshambo.Proofs.Text.WellFormed

/-! # Choosing a move with lines of any bytes

A line is whatever bytes came in, and only the bytes of a text that spells a move pick one. Bytes
with a flaw keep a replacement character where the flaw is, and a replacement character is neither
white space nor a letter; so they are rejected like any other line that picks nothing, wherever the
flaw is and whatever stands around it (`readMove_asked_bytes`).
-/

namespace Roshambo

/-- Bytes with a flaw pick no move. -/
theorem Move.ofTyped_decode_of_flawed {line : List UInt8} (flawed : Text.Flawed line) :
    ofTyped (Text.decode line) = .error ⟨Text.decode line⟩ :=
  ofTyped_of_foreign flawed.replaced (by decide) fun move => by cases move <;> decide

namespace Action

/-- How a question goes on behind a line: a move ends it; a rejection is noted, the player is told,
and the question is asked again. -/
def proceed (settings : Settings) : Except Rejection Move → Action Move
  | .ok move => do
    remark [.chosen move]
    return move
  | .error rejection => do
    remark [.rejected rejection]
    print settings.complaintLine
    readMove settings

section Asked

variable {settings : Settings} {console after : Console} {line : List UInt8}

/-- A question goes on with what the bytes of its first line are read as. -/
private theorem readMove_of_asked (asked : ask settings.prompt console = (.ok line, after))
    (nonempty : line ≠ []) :
    readMove settings console = proceed settings (Move.ofTyped (Text.decode line)) after := by
  rw [readMove_eq_bind, bind_apply, attempt, bind_apply, asked]
  simp only [judge, if_neg nonempty]
  cases Move.ofTyped (Text.decode line) with
  | ok move => rfl
  | error rejection =>
    simp only [proceed, bind_apply, remark]
    rcases print settings.complaintLine _ with ⟨result, told⟩
    cases result <;> rfl

private theorem Course.log_extends {before after : Console} {result : Except GameError Move}
    (course : Course before result after) : ∃ noted, after.log = before.log ++ noted := by
  cases course with
  | broken rejected => exact ⟨_, rejected.log⟩
  | settled _ _ _ log => exact ⟨_, log⟩

private theorem proceed_error_log (settings : Settings) (rejection : Rejection)
    (console : Console) :
    ∃ noted, (proceed settings (.error rejection) console).2.log =
      console.log ++ .rejected rejection :: noted := by
  simp only [proceed, bind_apply, remark]
  rcases told : print settings.complaintLine
    { console with log := console.log ++ [.rejected rejection] } with ⟨result, after⟩
  have log : after.log = console.log ++ [.rejected rejection] := by
    rw [← congrArg (fun ended => ended.2.log) told]
    rfl
  cases result with
  | error error => exact ⟨[], log⟩
  | ok =>
    obtain ⟨noted, whole⟩ := (readMove_course settings after).log_extends
    refine ⟨noted, ?_⟩
    rw [whole, log, List.append_assoc]
    rfl

/-- A question ends at its first line, with a move, only if that is the verdict on the line. -/
private theorem proceed_chosen_iff {verdict : Except Rejection Move} {move : Move} :
    proceed settings verdict console =
        (.ok move, { console with log := console.log ++ [.chosen move] }) ↔
      verdict = .ok move := by
  constructor
  · intro chosen
    cases verdict with
    | ok picked =>
      have same := congrArg Prod.fst chosen
      cases same
      rfl
    | error rejection =>
      -- The first entry behind the old log would be a choice and a rejection at once.
      obtain ⟨noted, log⟩ := proceed_error_log settings rejection console
      rw [chosen] at log
      have entry := List.append_cancel_left log
      cases entry
  · rintro rfl
    rfl

/-- A line that is no text has a flaw and is rejected; a question ends with a move exactly if its
line is a text that spells it. -/
theorem readMove_asked_bytes (asked : ask settings.prompt console = (.ok line, after))
    (nonempty : line ≠ []) :
    (∀ text, Text.encode text = line →
        Text.decode line = text ∧
          readMove settings console = proceed settings (Move.ofTyped text) after) ∧
      (Text.Flawed line ↔ ¬ ∃ text, Text.encode text = line) ∧
      ((∃ byte ∈ line, byte = 0xC0 ∨ byte = 0xC1 ∨ 0xF5 ≤ byte) → Text.Flawed line) ∧
      (Text.Flawed line →
        readMove settings console = proceed settings (.error ⟨Text.decode line⟩) after) ∧
      ∀ move, readMove settings console =
          (.ok move, { after with log := after.log ++ [.chosen move] }) ↔
        ∃ text, Text.encode text = line ∧ move.Spells text.toList := by
  have goesOn := readMove_of_asked asked nonempty
  refine ⟨?_, Text.flawed_iff, ?_, ?_, fun move => ?_⟩
  · rintro text rfl
    rw [goesOn, Text.decode_encode]
    exact ⟨rfl, rfl⟩
  · rintro ⟨byte, within, unused⟩
    exact Text.flawed_of_unused within unused
  · intro flawed
    rw [goesOn, Move.ofTyped_decode_of_flawed flawed]
  · rw [goesOn, proceed_chosen_iff]
    constructor
    · intro picked
      by_cases flawed : Text.Flawed line
      · rw [Move.ofTyped_decode_of_flawed flawed] at picked
        cases picked
      · rw [Text.flawed_iff, not_not] at flawed
        obtain ⟨text, rfl⟩ := flawed
        rw [Text.decode_encode] at picked
        exact ⟨text, rfl, Move.ofTyped_ok_iff_spells.mp picked⟩
    · rintro ⟨text, rfl, spells⟩
      rw [Text.decode_encode]
      exact Move.ofTyped_ok_iff_spells.mpr spells

/-- The beginning of a sequence, and then a code: the line is rejected with one replacement for the
beginning, and the next line is asked for. -/
theorem readMove_asked_bytes_cut :
    let console : Console := ⟨[.bytes [0xE2, 0x82, 0x61, 0x0A, 0x62, 0x0A]], .unlimited, []⟩
    let after := (ask Settings.standard.prompt console).2
    ask Settings.standard.prompt console = (.ok [0xE2, 0x82, 0x61, 0x0A], after) ∧
      Text.Flawed [0xE2, 0x82, 0x61, 0x0A] ∧
      readMove .standard console = proceed .standard (.error ⟨"\uFFFDa\n"⟩) after := by
  intro console after
  have asked : ask Settings.standard.prompt console = (.ok [0xE2, 0x82, 0x61, 0x0A], after) :=
    Prod.ext (by decide +kernel) rfl
  obtain ⟨_, isFlawed, _, rejected, _⟩ := readMove_asked_bytes asked (List.cons_ne_nil _ _)
  have read : Text.decode [0xE2, 0x82, 0x61, 0x0A] = "\uFFFDa\n" := by decide +kernel
  have flawed : Text.Flawed [0xE2, 0x82, 0x61, 0x0A] := by
    rw [isFlawed]
    rintro ⟨text, same⟩
    have whole : text = "\uFFFDa\n" := by rw [← read, ← same, Text.decode_encode]
    rw [whole] at same
    revert same
    decide
  have ends := rejected flawed
  rw [read] at ends
  exact ⟨asked, flawed, ends⟩

end Asked

end Action

end Roshambo
