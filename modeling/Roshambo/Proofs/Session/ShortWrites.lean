import Roshambo.Proofs.Console.Writing
import Roshambo.Proofs.Session.Unseen

/-! # Short writes

A device may take only a few bytes in a single write. A text is then written in several goes, and
neither the game nor anyone who looks at the output can tell: the same bytes are taken, also where
the device is full in the midst of a text, and the same fault is met behind them
(`Device.exists_write`). So nothing in a session depends on the size of the single writes
(`run_chunked`).
-/

namespace Roshambo

/-- The device with another bound on its single writes, or with none. -/
def Device.chunked (device : Device) (chunk : Option Nat) : Device := { device with chunk }

def Console.chunked (console : Console) (chunk : Option Nat) : Console :=
  { console with device := console.device.chunked chunk }

def Session.chunked (session : Session) (chunk : Option Nat) : Session :=
  { session with console := session.console.chunked chunk }

/-- The same console with two bounds on the single writes of its device. -/
inductive Console.Rechunked (chunk other : Option Nat) : Console → Console → Prop
  | bounds (console : Console) : Rechunked chunk other (console.chunked chunk)
      (console.chunked other)

namespace Session

variable {chunk other : Option Nat}

private theorem unseen_rechunked (moves : chunk ≠ some 0) (alsoMoves : other ≠ some 0) :
    Action.Unseen (Console.Rechunked chunk other) where
  print := by
    rintro text _ _ ⟨console⟩
    obtain ⟨result, taken, written⟩ := console.device.exists_write (Text.encode text)
    have first := written (console.device.chunked chunk) rfl moves
    have second := written (console.device.chunked other) rfl alsoMoves
    simp only [Action.print, Console.chunked, first, second]
    exact ⟨trivial, .bounds { console with device := console.device.take taken }⟩
  flush := by
    rintro _ _ ⟨console⟩
    rw [Action.flush, Action.flush, Device.flush_eq, Device.flush_eq]
    exact ⟨rfl, .bounds { console with device := console.device.flushed }⟩
  readLine := by
    rintro _ _ ⟨console⟩
    exact ⟨rfl, .bounds { console with input := console.input.readLine.2 }⟩
  remark := by
    rintro entries _ _ ⟨console⟩
    exact ⟨rfl, .bounds { console with log := console.log ++ entries }⟩

private theorem hidden_rechunked (moves : chunk ≠ some 0) (alsoMoves : other ≠ some 0) :
    Hidden (Console.Rechunked chunk other) where
  toUnseen := unseen_rechunked moves alsoMoves
  cleared := by
    rintro _ _ ⟨console⟩
    exact .bounds { console with device := console.device.cleared, log := [] }
  byteCount := by rintro _ _ ⟨console⟩; rfl
  output := by rintro _ _ ⟨console⟩; rfl
  flushes := by rintro _ _ ⟨console⟩; rfl
  log := by rintro _ _ ⟨console⟩; rfl

private theorem chunked_none_eq {first second : Session}
    (twins : Twins (Console.Rechunked chunk other) first second) :
    first.chunked none = second.chunked none := by
  have console : ∀ {one two : Console}, Console.Rechunked chunk other one two →
      one.chunked none = two.chunked none := by
    rintro _ _ ⟨console⟩
    rfl
  simp only [chunked, twins.settings, twins.opponent, console twins.console]

/-- Short writes are invisible: whatever bound the single writes of a device have, every step has
the same report, also where the device is full. -/
theorem run_chunked (session : Session) (steps : List Step) {chunk other : Option Nat}
    (moves : chunk ≠ some 0) (alsoMoves : other ≠ some 0) :
    ((session.chunked chunk).run steps).map (fun (report, after) => (report, after.chunked none)) =
      ((session.chunked other).run steps).map
        (fun (report, after) => (report, after.chunked none)) := by
  have twins : Twins (Console.Rechunked chunk other) (session.chunked chunk)
      (session.chunked other) := ⟨rfl, rfl, .bounds session.console⟩
  exact twins.run (hidden_rechunked moves alsoMoves) chunked_none_eq steps

/-- A limit that cuts the third character of the title in two, met byte by byte and in one write. -/
theorem run_chunked_splitCharacter :
    let limit : Limit := ⟨4, some ⟨.brokenPipe, none⟩, rfl⟩
    let device : Device := ⟨none, some limit, none, 0, []⟩
    let settings : Settings := { Settings.standard with title := "aé→b" }
    let session : Session := ⟨settings, .seeded 7, [.bytes [114, 10]], device, []⟩
    let steps : List Step := [.run, .readMove]
    some 1 ≠ some 0 ∧ none ≠ some 0 ∧
      ((session.chunked (some 1)).run steps).map
          (fun (report, after) => (report, after.chunked none)) =
        ((session.chunked none).run steps).map
          (fun (report, after) => (report, after.chunked none)) ∧
      ((session.chunked (some 1)).reports steps).map Report.output =
        [[97, 195, 169, 226], []] := by
  intro limit device settings session steps
  refine ⟨by decide, by decide, run_chunked session steps (by decide) (by decide), ?_⟩
  decide +kernel

end Session

end Roshambo
