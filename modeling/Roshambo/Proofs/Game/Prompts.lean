import Roshambo.Proofs.Console.Cuts
import Roshambo.Proofs.Game.Choosing

/-! # How often a move is asked for

A question for a move has no counter: it is asked again after each line that is rejected. `Asks` is
such a question as it runs, a number of attempts that pick no move and one more that ends it. An
attempt that picks no move has read a line with bytes in it, and such a line takes a line feed or an
end mark from the input, or else all that was left. So the question ends, and its prompt is printed
at most twice more than there are line feeds and end marks (`readMove_prompts`); failed reads do not
count, whether they are tried again or not.
-/

namespace Roshambo

namespace Script

/-- How many line feeds and end marks a script holds. -/
def lineEnds (script : Script) : Nat := script.bytes.count lineFeed + script.count .endMark

theorem lineEnds_append (front back : Script) :
    (front ++ back).lineEnds = front.lineEnds + back.lineEnds := by
  simp only [lineEnds, bytes_append, List.count_append]
  omega

theorem lineEnds_bytes (data : List UInt8) (script : Script) :
    lineEnds (.bytes data :: script) = data.count lineFeed + script.lineEnds := by
  have other : List.count .endMark (.bytes data :: script) = script.count .endMark :=
    List.count_cons_of_ne Delivery.noConfusion
  rw [lineEnds, bytes_cons, List.count_append, other, Nat.add_assoc]
  rfl

private theorem lineEnds_endMark (script : Script) :
    lineEnds (.endMark :: script) = script.lineEnds + 1 := by
  rw [lineEnds, bytes_cons, List.count_cons_self]
  rfl

/-- A line that is not the last takes a line feed or an end mark. -/
private theorem Cut.lineEnds_lt {script taken rest : Script} {line : List UInt8}
    (cut : script.Cut taken (.ok line) rest) : rest = [] ∨ rest.lineEnds < script.lineEnds := by
  generalize ended : Except.ok line = result at cut
  cases cut with
  | fed right =>
    refine .inr ?_
    rw [lineEnds_append, lineEnds_bytes, lineEnds_bytes, List.count_append, List.count_cons_self]
    omega
  | marked rest =>
    refine .inr ?_
    rw [lineEnds_append, lineEnds_endMark]
    omega
  | exhausted => exact .inl rfl
  | failed => cases ended

end Script

namespace Action

variable {settings : Settings}

private theorem exists_byte_of_unsettled {line : Except Fault (List UInt8)}
    (unsettled : verdict? line = none) : ∃ byte bytes, line = .ok (byte :: bytes) := by
  match line, unsettled with
  | .ok (byte :: bytes), _ => exact ⟨byte, bytes, rfl⟩

/-- A question asked again a number of times, each time behind a line with bytes in it that picked
no move; then it ends. -/
inductive Asks (settings : Settings) :
    (again : Nat) → Console → Except GameError Move → Console → Prop
  | last {before after : Console} {result : Except GameError Move}
      (tried : attempt settings before = (result.map some, after)) :
      Asks settings 0 before result after
  | again {count : Nat} {before middle after : Console} {result : Except GameError Move}
      {byte : UInt8} {line : List UInt8} (tried : attempt settings before = (.ok none, middle))
      (read : before.input.readLine = (.ok (byte :: line), middle.input))
      (later : Asks settings count middle result after) :
      Asks settings (count + 1) before result after

/-- An attempt prints the prompt and a complaint at most. -/
theorem Tried.output {before after : Console} {result : Except GameError (Option Move)}
    (tried : Tried settings before result after) :
    ∃ shown, after.device.output = before.device.output ++ shown ∧
      shown <+: Text.encode (settings.prompt ++ settings.complaintLine) := by
  rw [Text.encode_append]
  cases tried with
  | unasked output isPrefix => exact ⟨_, output, isPrefix.trans (List.prefix_append ..)⟩
  | settled =>
    exact ⟨_, before.device.output_carried settings.prompt 1, List.prefix_append ..⟩
  | told exchanged =>
    refine ⟨_, ?_, List.prefix_refl _⟩
    rw [exchanged.device, Device.output_carried, Text.encode_append]
  | @untold _ cut _ _ _ device isPrefix =>
    refine ⟨Text.encode settings.prompt ++ cut, ?_, (List.prefix_append_right_inj _).mpr isPrefix⟩
    rw [device, Device.output_take, Device.output_carried, List.append_assoc]

/-- An attempt that picks no move has read a line with bytes in it. -/
theorem Exchanged.read {before after : Console} (exchanged : Exchanged settings before after) :
    ∃ byte line, before.input.readLine = (.ok (byte :: line), after.input) := by
  obtain ⟨byte, line, read⟩ := exists_byte_of_unsettled (exchanged.lines 0 Nat.one_pos)
  exact ⟨byte, line, Prod.ext read exchanged.input.symm⟩

theorem readMove_asks (settings : Settings) (console : Console) :
    ∃ again, Asks settings again console (readMove settings console).1
      (readMove settings console).2 := by
  fun_induction readMove settings console with
  | case1 console move after ended => exact ⟨0, .last ended⟩
  | case2 console after ended ih =>
    have tried := attempt_tried settings console
    rw [ended] at tried
    obtain ⟨byte, line, read⟩ := tried.exchanged.read
    obtain ⟨again, later⟩ := ih
    exact ⟨again + 1, .again ended read later⟩
  | case3 console error after ended => exact ⟨0, .last ended⟩

section Asks

variable {again : Nat} {before after : Console} {result : Except GameError Move}

theorem Asks.le (asks : Asks settings again before result after) :
    again ≤ before.input.lineEnds + 1 := by
  induction asks with
  | last => exact Nat.zero_le _
  | @again count before middle after result byte line tried read later ih =>
    obtain ⟨taken, cut⟩ := Script.readLine_eq_iff.mp read
    rcases cut.lineEnds_lt with used | less
    · -- Nothing is left, so that the next line has no bytes and ends the question.
      cases later with
      | last => omega
      | again _ next => rw [used] at next; cases next
    · omega

/-- Behind the exchanges stands what the last attempt prints. -/
theorem Asks.output (asks : Asks settings again before result after) :
    ∃ shown, after.device.output =
        before.device.output ++ Text.encode (exchanges settings again) ++ shown ∧
      shown <+: Text.encode (settings.prompt ++ settings.complaintLine) := by
  induction asks with
  | @last before after result ended =>
    have tried := attempt_tried settings before
    rw [ended] at tried
    obtain ⟨shown, output, isPrefix⟩ := tried.output
    refine ⟨shown, ?_, isPrefix⟩
    rw [output, List.append_assoc]
    rfl
  | @again count before middle after result byte line ended read later ih =>
    have tried := attempt_tried settings before
    rw [ended] at tried
    obtain ⟨shown, output, isPrefix⟩ := ih
    refine ⟨shown, ?_, isPrefix⟩
    rw [output, tried.exchanged.device, Device.output_carried, exchanges_succ]
    simp only [Text.encode_append, List.append_assoc]

end Asks

/-- Whatever is on the input and whatever fails, a question for a move ends, after at most two more
prompts than there are line feeds and end marks. -/
theorem readMove_prompts (settings : Settings) (console : Console) :
    ∃ again shown, again + 1 ≤ console.input.lineEnds + 2 ∧
      Asks settings again console (readMove settings console).1 (readMove settings console).2 ∧
      (readMove settings console).2.device.output =
        console.device.output ++ Text.encode (exchanges settings again) ++ shown ∧
      shown <+: Text.encode (settings.prompt ++ settings.complaintLine) := by
  obtain ⟨again, asks⟩ := readMove_asks settings console
  obtain ⟨shown, output, isPrefix⟩ := asks.output
  have bound := asks.le
  exact ⟨again, shown, by omega, asks, output, isPrefix⟩

/-- One line feed, one end mark and a rest: the question is asked four times. -/
example :
    let script : Script :=
      [.bytes [120, 10, 121], .fault ⟨.interrupted, none⟩, .endMark, .bytes [122]]
    script.lineEnds = 2 ∧ (readMove .standard ⟨script, .unlimited, []⟩).2.device.flushes = 4 := by
  intro script
  rw [readMove_eq_within .standard 5 ⟨script, .unlimited, []⟩ (by decide)]
  decide +kernel

end Action

end Roshambo
