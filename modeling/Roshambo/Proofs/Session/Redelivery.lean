import Roshambo.Proofs.Console.Deliveries
import Roshambo.Proofs.Session.Unseen

/-! # Sessions on input that is delivered in another way

Two consoles are alike if they differ only in how the same events will be delivered. Every operation
gives the same on both and leaves them alike (`hidden_deliveries`), and so a session cannot tell the
two apart, whatever is left of a line or of a delivery between two of its steps.
-/

namespace Roshambo

/-- The same console, but for the deliveries by which the same events come in. -/
structure Console.Alike (first second : Console) : Prop where
  events : first.input.events = second.input.events
  device : first.device = second.device
  log : first.log = second.log

namespace Action

/-- An action cannot tell consoles apart that are alike. -/
def Blind {α : Type} (action : Action α) : Prop :=
  ∀ ⦃first second : Console⦄, first.Alike second →
    (action first).1 = (action second).1 ∧ (action first).2.Alike (action second).2

private theorem blind_print (text : String) : (print text).Blind := by
  intro first second alike
  rw [print, print, alike.device]
  exact ⟨rfl, alike.events, rfl, alike.log⟩

private theorem blind_flush : flush.Blind := by
  intro first second alike
  rw [flush, flush, alike.device]
  exact ⟨rfl, alike.events, rfl, alike.log⟩

private theorem blind_readLine : readLine.Blind := by
  intro first second alike
  obtain ⟨line, rest⟩ := Script.readLine_events alike.events
  exact ⟨congrArg (Except.mapError GameError.io) line, rest, alike.device, alike.log⟩

private theorem blind_remark (entries : List LogEntry) : (remark entries).Blind := by
  intro first second alike
  exact ⟨rfl, alike.events, alike.device, congrArg (· ++ entries) alike.log⟩

end Action

namespace Session

structure Alike (first second : Session) : Prop where
  settings : first.settings = second.settings
  opponent : first.opponent = second.opponent
  console : first.console.Alike second.console

variable {first second : Session}

private theorem byteCount_eq {first second : Console} (alike : first.Alike second) :
    first.input.byteCount = second.input.byteCount := by
  rw [← Script.eventBytes_events, ← Script.eventBytes_events, alike.events]

/-- Deliveries are seen by no operation and shown by no report. -/
theorem hidden_deliveries : Hidden Console.Alike where
  print := Action.blind_print
  flush := Action.blind_flush
  readLine := Action.blind_readLine
  remark := Action.blind_remark
  cleared alike := ⟨alike.events, congrArg Device.cleared alike.device, rfl⟩
  byteCount := byteCount_eq
  output alike := congrArg Device.output alike.device
  flushes alike := congrArg Device.flushes alike.device
  log alike := alike.log

theorem Alike.run (alike : first.Alike second) (steps : List Step) :
    (first.run steps).map (fun (report, after) => (report, after.opponent)) =
      (second.run steps).map (fun (report, after) => (report, after.opponent)) := by
  have twins : Twins Console.Alike first second := ⟨alike.settings, alike.opponent, alike.console⟩
  exact twins.run hidden_deliveries (fun twins => twins.opponent) steps

/-- How the input is delivered makes no difference to a session: every step has the same report and
leaves the same opponent. -/
theorem run_redelivered {first second : Script} (same : Script.Redelivers first second)
    (settings : Settings) (opponent : Opponent) (device : Device) (log : List LogEntry)
    (steps : List Step) :
    (Session.run ⟨settings, opponent, first, device, log⟩ steps).map
        (fun (report, after) => (report, after.opponent)) =
      (Session.run ⟨settings, opponent, second, device, log⟩ steps).map
        (fun (report, after) => (report, after.opponent)) := by
  have alike : Session.Alike ⟨settings, opponent, first, device, log⟩
      ⟨settings, opponent, second, device, log⟩ := ⟨rfl, rfl, same.events_eq, rfl, rfl⟩
  exact alike.run steps

/-- Two lines in one delivery, and the same bytes cut inside a character and a line ending, with an
interruption and an empty delivery between. -/
theorem run_redelivered_pieces :
    let whole : Script := [.bytes [195, 169, 13, 10, 97]]
    let pieces : Script := [.bytes [195], .fault ⟨.interrupted, some "again"⟩, .bytes [169, 13],
      .bytes [], .bytes [10, 97]]
    let steps : List Step := [.run, .readMove]
    whole.Redelivers pieces ∧
      (Session.run ⟨.standard, .seeded 7, whole, .unlimited, []⟩ steps).map
          (fun (report, after) => (report, after.opponent)) =
        (Session.run ⟨.standard, .seeded 7, pieces, .unlimited, []⟩ steps).map
          (fun (report, after) => (report, after.opponent)) := by
  intro whole pieces steps
  have character : whole.Redelivers [.bytes [195], .bytes [169, 13, 10, 97]] :=
    .split [] [195] [169, 13, 10, 97] []
  have ending := character.trans (.split [.bytes [195]] [169, 13] [10, 97] [])
  have nothing := ending.trans (.empty [.bytes [195], .bytes [169, 13]] [.bytes [10, 97]])
  have same : whole.Redelivers pieces := nothing.trans
    (.interruption [.bytes [195]] rfl [.bytes [169, 13], .bytes [], .bytes [10, 97]])
  exact ⟨same, run_redelivered same .standard (.seeded 7) .unlimited [] steps⟩

end Session

end Roshambo
