import Roshambo.Proofs.Console.Printing
import Roshambo.Proofs.Session.Steps

/-! # Full devices

A session on a device with room for a number of bytes is compared with the same session on a device
without a limit. As long as what has been written fits, the two go the same way; the step in which
it would no longer fit ends with the reason of the limit, after the bytes for which there was still
room, and nothing is written from then on. So the limited output is the beginning of the unlimited
one, whatever the steps are and wherever the limit falls.
-/

namespace Roshambo

/-- The device with another limit, or with none. -/
def Device.within (device : Device) (limit : Option Limit) : Device := { device with limit }

def Console.within (console : Console) (limit : Option Limit) : Console :=
  { console with device := console.device.within limit }

def Session.within (session : Session) (limit : Option Limit) : Session :=
  { session with console := session.console.within limit }

/-- How an action ends with a limit and without: alike if what it writes fits, else with the reason
of the limit on a full device. -/
inductive Cut {α : Type} (limit : Limit) (before : Console)
    (free tight : Except GameError α × Console) : Prop
  | fits (written : List UInt8) (output : free.2.device.output = before.device.output ++ written)
      (small : written.length ≤ limit.room)
      (same : tight = (free.1, free.2.within (some (limit.spend written.length))))
  | exceeds (written : List UInt8)
      (output : free.2.device.output = before.device.output ++ written)
      (large : limit.room < written.length) (failed : tight.1 = .error (.io limit.reason))
      (beginning : tight.2.device.output = before.device.output ++ written.take limit.room)
      (full : tight.2.device.limit = some (limit.spend limit.room)) (moves : tight.2.device.Moves)

namespace Cut

variable {α : Type} {limit : Limit} {before : Console} {free tight : Except GameError α × Console}

/-- What was written without a limit. -/
theorem written (cut : Cut limit before free tight) :
    ∃ written, free.2.device.output = before.device.output ++ written := by
  cases cut with
  | fits written output => exact ⟨written, output⟩
  | exceeds written output => exact ⟨written, output⟩

/-- Nothing has been written. -/
theorem unwritten (output : free.2.device.output = before.device.output)
    (same : tight = (free.1, free.2.within (some limit))) : Cut limit before free tight :=
  .fits [] (by rw [output, List.append_nil]) (Nat.zero_le _) same

end Cut

namespace Action

/-- An action writes the same with a limit as without, up to the limit. -/
def Truncates {α : Type} (action : Action α) : Prop :=
  ∀ (console : Console) (limit : Limit), console.device.IsFree →
    (action console).2.device.IsFree ∧
      Cut limit console (action console) (action (console.within (some limit)))

private theorem truncates_print (text : String) : (print text).Truncates := by
  intro console limit free
  have moves : (console.device.within (some limit)).Moves := free.moves
  have loose : print text console =
      (.ok (), { console with device := console.device.take (Text.encode text) }) := by
    rw [print, free.write]
    rfl
  rw [loose]
  refine ⟨free.take _, ?_⟩
  by_cases small : (Text.encode text).length ≤ limit.room
  · refine .fits (Text.encode text) (Device.output_take _ _) small ?_
    have room : (console.device.within (some limit)).Fits (Text.encode text).length := by
      intro other member
      cases Option.some.inj member
      exact small
    rw [print, Console.within, Device.write_of_fits moves room]
    rfl
  · have large : limit.room < (Text.encode text).length := by omega
    have length : ((Text.encode text).take limit.room).length = limit.room := by
      rw [List.length_take]; omega
    have stopped : print text (console.within (some limit)) = (.error (.io limit.reason),
        { console with device :=
            (console.device.within (some limit)).take ((Text.encode text).take limit.room) }) := by
      rw [print, Console.within, Device.write_of_exceeds moves rfl large]
      rfl
    rw [stopped]
    refine .exceeds (Text.encode text) (Device.output_take _ _) large rfl
      (Device.output_take _ _) ?_ moves
    rw [Device.limit_take, length]
    rfl

private theorem truncates_flush : flush.Truncates := by
  intro console limit free
  constructor
  · rw [flush, Device.flush_eq]
    exact ⟨free.unlimited, free.moves⟩
  · rw [flush, flush, Device.flush_eq, Device.flush_eq]
    exact .unwritten rfl rfl

private theorem truncates_readLine : readLine.Truncates := by
  intro console limit free
  exact ⟨⟨free.unlimited, free.moves⟩, .unwritten rfl rfl⟩

private theorem truncates_pure {α : Type} (value : α) : (pure value : Action α).Truncates :=
  fun _ _ free => ⟨free, .unwritten rfl rfl⟩

private theorem truncates_fail {α : Type} (error : GameError) : (fail error : Action α).Truncates :=
  fun _ _ free => ⟨free, .unwritten rfl rfl⟩

private theorem truncates_remark (entries : List LogEntry) : (remark entries).Truncates :=
  fun _ _ free => ⟨⟨free.unlimited, free.moves⟩, .unwritten rfl rfl⟩

/-- Two actions in sequence share the room: what the first one writes is gone for the second. -/
theorem Truncates.bind {α β : Type} {first : Action α} {next : α → Action β}
    (head : first.Truncates) (tail : ∀ value, (next value).Truncates) :
    (first >>= next).Truncates := by
  intro console limit free
  obtain ⟨still, cut⟩ := head console limit free
  rw [bind_apply, bind_apply]
  rcases ended : first console with ⟨result, after⟩
  rw [ended] at still cut
  cases cut with
  | fits written output small same =>
    rw [same]
    cases result with
    | error error => exact ⟨still, .fits written output small rfl⟩
    | ok value =>
      obtain ⟨last, rest⟩ := tail value after (limit.spend written.length) still
      refine ⟨last, ?_⟩
      cases rest with
      | fits more further room same =>
        rw [Limit.room_spend] at room
        refine .fits (written ++ more) ?_ ?_ ?_
        · rw [further, output, List.append_assoc]
        · rw [List.length_append]; omega
        · rw [List.length_append, ← Limit.spend_spend]; exact same
      | exceeds more further large failed beginning full moves =>
        rw [Limit.room_spend] at large
        refine .exceeds (written ++ more) ?_ ?_ failed ?_ ?_ moves
        · rw [further, output, List.append_assoc]
        · rw [List.length_append]; omega
        · rw [beginning, Limit.room_spend, output, List.append_assoc,
            List.take_append, List.take_of_length_le small]
        · rw [full, Limit.spend_spend, Limit.room_spend, Nat.add_sub_cancel' small]
  | exceeds written output large failed beginning full moves =>
    rcases stopped : first (console.within (some limit)) with ⟨outcome, left⟩
    rw [stopped] at failed beginning full moves
    cases failed
    cases result with
    | error error => exact ⟨still, .exceeds written output large rfl beginning full moves⟩
    | ok value =>
      obtain ⟨last, rest⟩ := tail value after limit still
      obtain ⟨more, further⟩ := rest.written
      refine ⟨last, .exceeds (written ++ more) ?_ ?_ rfl ?_ full moves⟩
      · rw [further, output, List.append_assoc]
      · rw [List.length_append]; omega
      · rw [beginning, List.take_append_of_le_length (by omega)]

/-- Every composed action is cut off by a limit and by nothing else. -/
theorem Composed.truncates {α : Type} {action : Action α} (composed : Composed action) :
    action.Truncates := by
  induction composed with
  | pure value => exact truncates_pure value
  | close => exact truncates_fail .inputClosed
  | remark entries => exact truncates_remark entries
  | print text => exact truncates_print text
  | flush => exact truncates_flush
  | readLine => exact truncates_readLine
  | bind _ _ head tail => exact head.bind tail
  | limit stage _ agree ih =>
    intro console limit free
    have enough : console.input.byteCount < console.input.byteCount + 1 := Nat.lt_succ_self _
    rw [agree _ console enough, agree _ (console.within (some limit)) enough]
    exact ih _ console limit free

end Action

namespace Game

private theorem output_play (settings : Settings) (opponent : Opponent) {console : Console}
    (free : console.device.IsFree) :
    ∃ more, (play settings opponent console).2.device.output =
      (choose settings console).2.device.output ++ more := by
  have still := ((composed_choose settings).truncates console ⟨0, none, rfl⟩ free).1
  rw [play, Action.bind_apply]
  rcases chosen : choose settings console with ⟨result, after⟩
  rw [chosen] at still
  cases result with
  | error error => exact ⟨[], (List.append_nil _).symm⟩
  | ok player =>
    have rest : Action.Composed (do
        Action.remark (opponent.remarks opponent.play.1)
        conclude settings (Round.ofMoves player opponent.play.1)) :=
      .bind (.remark _) fun _ => composed_conclude settings _
    exact (rest.truncates after ⟨0, none, rfl⟩ still).2.written

/-- Where a whole game fits, the opponent plays with a limit if it plays without one. -/
private theorem opponentAfter_within (settings : Settings) (opponent : Opponent) {console : Console}
    {limit : Limit} {written : List UInt8} (free : console.device.IsFree)
    (output : (play settings opponent console).2.device.output = console.device.output ++ written)
    (small : written.length ≤ limit.room) :
    opponentAfter settings opponent (console.within (some limit)) =
      opponentAfter settings opponent console := by
  obtain ⟨_, cut⟩ := (composed_choose settings).truncates console limit free
  cases cut with
  | fits _ _ _ same => rw [opponentAfter, opponentAfter, same]
  | exceeds first begun large =>
    obtain ⟨more, further⟩ := output_play settings opponent free
    have total := congrArg List.length (output.symm.trans (further.trans (by rw [begun])))
    simp only [List.length_append] at total
    omega

end Game

namespace Session

variable {session : Session} {limit : Limit}

private theorem within_free (present : session.console.device.limit = some limit) :
    (session.within none).within (some limit) = session := by
  rw [← present]
  rfl

theorem cleared_isFree (free : session.console.device.IsFree) :
    session.cleared.console.device.IsFree :=
  ⟨free.unlimited, free.moves⟩

/-- What a step does on an empty record, with a limit and without it. -/
theorem cut_act (limit : Limit) (free : session.console.device.IsFree) (next : Step) :
    (session.cleared.act next).2.device.IsFree ∧
      Cut limit session.cleared.console (session.cleared.act next)
        ((session.within (some limit)).cleared.act next) :=
  (next.composed_action session.settings session.opponent).truncates _ limit (cleared_isFree free)

private theorem step_isFree (free : session.console.device.IsFree) (next : Step) :
    (session.step next).2.console.device.IsFree := by
  rw [step_eq]
  exact (cut_act ⟨0, none, rfl⟩ free next).1

private theorem opponentAfter_of_fits (free : session.console.device.IsFree) {next : Step}
    (small : (session.cleared.act next).2.device.output.length ≤ limit.room) :
    (session.within (some limit)).cleared.opponentAfter next =
      session.cleared.opponentAfter next := by
  cases next with
  | run =>
    refine Game.opponentAfter_within _ _ (cleared_isFree free) ?_ small
    rw [act, Step.action, Step.answering_apply]
    rfl
  | _ => rfl

/-- A step whose output fits is the same with the limit. -/
theorem step_of_fits (free : session.console.device.IsFree) {next : Step}
    (small : (session.step next).1.output.length ≤ limit.room) :
    (session.within (some limit)).step next = ((session.step next).1,
      (session.step next).2.within (some (limit.spend (session.step next).1.output.length))) := by
  obtain ⟨_, cut⟩ := cut_act limit free next
  rw [output_step] at small
  rw [step_eq, step_eq, opponentAfter_of_fits free small]
  cases cut with
  | fits written output _ same =>
    have whole : (session.cleared.act next).2.device.output = written := output
    rw [same, ← whole]
    rfl
  | exceeds written output large =>
    have whole : (session.cleared.act next).2.device.output = written := output
    rw [whole] at small
    omega

/-- A step whose output does not fit writes its beginning, reports the reason of the limit, and
leaves a full device. -/
theorem step_of_exceeds (free : session.console.device.IsFree) {next : Step}
    (large : limit.room < (session.step next).1.output.length) :
    ((session.within (some limit)).step next).1.result = .error (.io limit.reason) ∧
      ((session.within (some limit)).step next).1.output =
        (session.step next).1.output.take limit.room ∧
      ∃ other : Session, other.console.device.IsFree ∧
        ((session.within (some limit)).step next).2 =
          other.within (some (limit.spend limit.room)) := by
  obtain ⟨_, cut⟩ := cut_act limit free next
  rw [output_step] at large
  rw [step_eq, step_eq]
  cases cut with
  | fits written output small =>
    have whole : (session.cleared.act next).2.device.output = written := output
    rw [whole] at large
    omega
  | exceeds written output _ failed beginning full moves =>
    have whole : (session.cleared.act next).2.device.output = written := output
    exact ⟨failed, by rw [whole]; exact beginning, _, ⟨rfl, moves⟩, (within_free full).symm⟩

/-- The comparison for a session without a limit; after the step that fills the device, the rest
of the limited session is compared with itself freed of its limit. -/
theorem reports_within (limit : Limit) (free : session.console.device.IsFree) (steps : List Step) :
    Report.written ((session.within (some limit)).reports steps) =
        (Report.written (session.reports steps)).take limit.room ∧
      (∀ k, (Report.written ((session.reports steps).take (k + 1))).length ≤ limit.room →
        ((session.within (some limit)).reports steps)[k]? = (session.reports steps)[k]?) ∧
      ∀ k, (Report.written ((session.reports steps).take k)).length ≤ limit.room →
        limit.room < (Report.written ((session.reports steps).take (k + 1))).length →
        (((session.within (some limit)).reports steps)[k]?).map Report.result =
          some (.error (.io limit.reason)) := by
  induction steps generalizing session limit with
  | nil =>
    refine ⟨List.take_nil.symm, fun _ _ => rfl, ?_⟩
    intro k _ large
    rw [reports, run, List.map_nil, List.take_nil] at large
    exact absurd large (Nat.not_lt_zero _)
  | cons next steps ih =>
    rw [reports_cons, reports_cons]
    by_cases small : (session.step next).1.output.length ≤ limit.room
    · obtain ⟨cut, same, last⟩ := ih (limit.spend (session.step next).1.output.length)
        (step_isFree free next)
      rw [Limit.room_spend] at cut same last
      rw [step_of_fits free small]
      refine ⟨?_, ?_, ?_⟩
      · rw [Report.written_cons, Report.written_cons, cut, List.take_append,
          List.take_of_length_le small]
      · intro k fits
        cases k with
        | zero => rfl
        | succ k =>
          rw [List.take_succ_cons, Report.written_cons, List.length_append] at fits
          exact same k (by omega)
      · intro k before large
        cases k with
        | zero =>
          rw [List.take_succ_cons, List.take_zero, Report.written_cons, List.length_append] at large
          exact absurd large (Nat.not_lt.mpr small)
        | succ k =>
          rw [List.take_succ_cons, Report.written_cons, List.length_append] at before large
          exact last k (by omega) (by omega)
    · have large : limit.room < (session.step next).1.output.length := by omega
      obtain ⟨failed, beginning, other, still, rest⟩ := step_of_exceeds free large
      obtain ⟨cut, _⟩ := ih (limit.spend limit.room) still
      rw [Limit.room_spend, Nat.sub_self, List.take_zero] at cut
      refine ⟨?_, ?_, ?_⟩
      · rw [Report.written_cons, Report.written_cons, rest, cut, List.append_nil, beginning,
          List.take_append_of_le_length (by omega)]
      · intro k fits
        rw [List.take_succ_cons, Report.written_cons, List.length_append] at fits
        omega
      · intro k before _
        cases k with
        | zero => exact congrArg some failed
        | succ k =>
          rw [List.take_succ_cons, Report.written_cons, List.length_append] at before
          omega

/-- A full device truncates what a session writes and never reorders it; the step that first exceeds
the limit reports it, and those before are unchanged. -/
theorem truncated_reports (session : Session) (limit : Limit) (steps : List Step)
    (moves : session.console.device.Moves) :
    let free := (session.within none).reports steps
    let tight := (session.within (some limit)).reports steps
    Report.written tight = (Report.written free).take limit.room ∧
      (∀ k, (Report.written (free.take (k + 1))).length ≤ limit.room → tight[k]? = free[k]?) ∧
      (∀ k, (Report.written (free.take k)).length ≤ limit.room →
        limit.room < (Report.written (free.take (k + 1))).length →
        (tight[k]?).map Report.result = some (.error (.io
          (limit.fault.getD ⟨.writeZero, some "failed to write whole buffer"⟩)))) ∧
      -- An empty text needs no room, so that it cannot be what fails.
      ∀ console : Console, Action.print "" console = (.ok (), console) := by
  intro free tight
  have unlimited : (session.within none).console.device.IsFree := ⟨rfl, moves⟩
  obtain ⟨beginning, same, last⟩ := reports_within limit unlimited steps
  exact ⟨beginning, same, last, Action.print_empty⟩

/-- The announcement takes sixty of the bytes there is room for, and the title is cut. -/
theorem truncated_reports_title :
    let session : Session := ⟨.standard, .always .rock, ⟨[], ⟨some 3, none, none, 0, []⟩, []⟩⟩
    let steps : List Step := [.announce ⟨.rock, .paper, .loss⟩, .welcome]
    session.console.device.Moves ∧
      (((session.within (some ⟨67, none, rfl⟩)).reports steps)[1]?).map Report.result =
        some (.error (.io ⟨.writeZero, some "failed to write whole buffer"⟩)) := by
  intro session steps
  have moves : session.console.device.Moves := by unfold Device.Moves; decide
  obtain ⟨_, _, last, _⟩ := truncated_reports session ⟨67, none, rfl⟩ steps moves
  exact ⟨moves, last 1 (by decide +kernel) (by decide +kernel)⟩

end Session

end Roshambo
