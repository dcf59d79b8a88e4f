import Mathlib.Data.Nat.Find
import Roshambo.Proofs.Console.Composed
import Roshambo.Proofs.Console.Lines
import Roshambo.Proofs.Console.Writing

/-! # The transcript of a game

On a device that never fails, the lines of the input alone decide how a game goes. The first line
that is not rejected settles the choice; for every line before it the prompt and the complaint are
printed once. If it is a move, the opponent plays, the round is announced, and one more line is
read. `Did` describes what was done to a console on the way, and composes.
-/

namespace Roshambo

/-- No write and no flush on the device fails from now on. -/
structure Device.IsReliable (device : Device) : Prop extends device.IsFree where
  flushes : ∀ place fault, device.flushFault = some (place, fault) → place ≤ device.flushes

namespace Device

theorem IsReliable.take {device : Device} (reliable : device.IsReliable) (bytes : List UInt8) :
    (device.take bytes).IsReliable :=
  ⟨reliable.toIsFree.take bytes, reliable.flushes⟩

theorem IsReliable.flushResult {device : Device} (reliable : device.IsReliable) :
    device.flushResult = .ok () := by
  unfold Device.flushResult
  split
  · next place fault planned =>
    have past := reliable.flushes place fault planned
    exact if_neg (by omega)
  · rfl

theorem IsReliable.flushed {device : Device} (reliable : device.IsReliable) :
    device.flushed.IsReliable :=
  ⟨⟨reliable.unlimited, reliable.moves⟩, fun place fault planned =>
    Nat.le_succ_of_le (reliable.flushes place fault planned)⟩

end Device

/-- What was done between two states of a console: a text was written, the device was flushed and
lines were read, some number of times each. -/
structure Did (before : Console) (text : String) (flushes lines : Nat) (after : Console) :
    Prop where
  output : after.device.output = before.device.output ++ Text.encode text
  flushes : after.device.flushes = before.device.flushes + flushes
  input : after.input = before.input.after lines
  reliable : after.device.IsReliable

namespace Did

variable {before middle after : Console} {text more : String}
variable {flushes lines moreFlushes moreLines : Nat}

theorem trans (first : Did before text flushes lines middle)
    (second : Did middle more moreFlushes moreLines after) :
    Did before (text ++ more) (flushes + moreFlushes) (lines + moreLines) after where
  output := by rw [second.output, first.output, Text.encode_append, List.append_assoc]
  flushes := by rw [second.flushes, first.flushes, Nat.add_assoc]
  input := by rw [second.input, first.input, Script.after_add]
  reliable := second.reliable

/-- Nothing was done but that something may have been logged. -/
theorem nothing {console : Console} (reliable : console.device.IsReliable) (log : List LogEntry) :
    Did console "" 0 0 { console with log } where
  output := (List.append_nil _).symm
  flushes := rfl
  input := rfl
  reliable := reliable

end Did

namespace Action

/-- How an action ends and what it does on the way. -/
structure Yields {α : Type} (action : Action α) (console : Console) (result : Except GameError α)
    (text : String) (flushes lines : Nat) : Prop where
  result : (action console).1 = result
  did : Did console text flushes lines (action console).2

section Yields

variable {α β : Type} {console : Console} {text more : String}
  {flushes lines moreFlushes moreLines : Nat}

theorem Yields.congr {action : Action α} {result : Except GameError α}
    (yields : action.Yields console result text flushes lines) (same_text : text = more)
    (same_flushes : flushes = moreFlushes) (same_lines : lines = moreLines) :
    action.Yields console result more moreFlushes moreLines := by
  subst same_text same_flushes same_lines
  exact yields

theorem Yields.bind_ok {first : Action α} {next : α → Action β} {value : α}
    {result : Except GameError β} (head : first.Yields console (.ok value) text flushes lines)
    (tail : (next value).Yields (first console).2 result more moreFlushes moreLines) :
    (first >>= next).Yields console result (text ++ more) (flushes + moreFlushes)
      (lines + moreLines) := by
  have whole : (first >>= next) console = next value (first console).2 := by
    rw [bind_apply, show first console = (.ok value, (first console).2) from
      Prod.ext head.result rfl]
  exact ⟨by rw [whole]; exact tail.result, by rw [whole]; exact head.did.trans tail.did⟩

theorem Yields.bind_error {first : Action α} {next : α → Action β} {error : GameError}
    (head : first.Yields console (.error error) text flushes lines) :
    (first >>= next).Yields console (.error error) text flushes lines := by
  have whole : (first >>= next) console = (.error error, (first console).2) := by
    rw [bind_apply, show first console = (.error error, (first console).2) from
      Prod.ext head.result rfl]
  exact ⟨by rw [whole], by rw [whole]; exact head.did⟩

theorem yields_pure (reliable : console.device.IsReliable) (value : α) :
    (pure value : Action α).Yields console (.ok value) "" 0 0 :=
  ⟨rfl, .nothing reliable console.log⟩

private theorem yields_fail (reliable : console.device.IsReliable) (error : GameError) :
    (fail error : Action α).Yields console (.error error) "" 0 0 :=
  ⟨rfl, .nothing reliable console.log⟩

theorem yields_remark (reliable : console.device.IsReliable) (entries : List LogEntry) :
    (remark entries).Yields console (.ok ()) "" 0 0 :=
  ⟨rfl, .nothing reliable (console.log ++ entries)⟩

theorem yields_print (reliable : console.device.IsReliable) (text : String) :
    (print text).Yields console (.ok ()) text 0 0 := by
  have whole : print text console =
      (.ok (), { console with device := console.device.take (Text.encode text) }) := by
    rw [print, reliable.toIsFree.write]
    rfl
  refine ⟨by rw [whole], ?_⟩
  rw [whole]
  exact ⟨Device.output_take _ _, rfl, rfl, reliable.take _⟩

private theorem yields_flush (reliable : console.device.IsReliable) :
    flush.Yields console (.ok ()) "" 1 0 := by
  have whole : flush console = (.ok (), { console with device := console.device.flushed }) := by
    rw [flush, Device.flush_eq, reliable.flushResult]
    rfl
  refine ⟨by rw [whole], ?_⟩
  rw [whole]
  exact ⟨(List.append_nil _).symm, rfl, rfl, reliable.flushed⟩

private theorem yields_readLine (reliable : console.device.IsReliable) :
    readLine.Yields console ((console.input.line 0).mapError .io) "" 0 1 :=
  ⟨rfl, ⟨(List.append_nil _).symm, rfl, rfl, reliable⟩⟩

theorem yields_ask (reliable : console.device.IsReliable) (prompt : String) :
    (ask prompt).Yields console ((console.input.line 0).mapError .io) prompt 1 1 := by
  have printed := yields_print reliable prompt
  have flushed := yields_flush printed.did.reliable
  have read := yields_readLine flushed.did.reliable
  rw [flushed.did.input, printed.did.input] at read
  refine Yields.congr (printed.bind_ok (flushed.bind_ok read)) ?_ rfl rfl
  rw [String.append_empty, String.append_empty]

end Yields

/-- What a line means for the choice: the move that it picks, or the error with which the game ends.
A line that picks no move settles nothing. -/
def verdict? : Except Fault (List UInt8) → Option (Except GameError Move)
  | .error fault => some (.error (.io fault))
  | .ok line =>
    if line = [] then some (.error .inputClosed)
    else
      match Move.ofTyped (Text.decode line) with
      | .ok move => some (.ok move)
      | .error _ => none

private theorem judge_settled (settings : Settings) {console : Console} {line : List UInt8}
    {verdict : Except GameError Move} (reliable : console.device.IsReliable)
    (settled : verdict? (.ok line) = some verdict) :
    (judge settings line).Yields console (verdict.map some) "" 0 0 := by
  by_cases empty : line = []
  · simp only [verdict?, if_pos empty] at settled
    cases settled
    rw [judge, if_pos empty]
    exact yields_fail reliable _
  · cases typed : Move.ofTyped (Text.decode line) with
    | ok move =>
      simp only [verdict?, if_neg empty, typed] at settled
      cases settled
      simp only [judge, if_neg empty, typed]
      have logged := yields_remark reliable [.chosen move]
      have done := yields_pure logged.did.reliable (some move)
      exact Yields.congr (logged.bind_ok done) String.append_empty rfl rfl
    | error rejection =>
      simp only [verdict?, if_neg empty, typed] at settled
      cases settled

private theorem judge_unsettled (settings : Settings) {console : Console} {line : List UInt8}
    (reliable : console.device.IsReliable) (unsettled : verdict? (.ok line) = none) :
    (judge settings line).Yields console (.ok none) (settings.complaint ++ "\n") 0 0 := by
  by_cases empty : line = []
  · simp only [verdict?, if_pos empty] at unsettled
    cases unsettled
  · cases typed : Move.ofTyped (Text.decode line) with
    | ok move =>
      simp only [verdict?, if_neg empty, typed] at unsettled
      cases unsettled
    | error rejection =>
      simp only [judge, if_neg empty, typed]
      have logged := yields_remark reliable [.rejected rejection]
      have told := yields_print logged.did.reliable settings.complaintLine
      have done := yields_pure told.did.reliable (none : Option Move)
      refine Yields.congr (logged.bind_ok (told.bind_ok done)) ?_ rfl rfl
      rw [String.append_empty, String.empty_append]
      rfl

private theorem attempt_settled (settings : Settings) {console : Console}
    {verdict : Except GameError Move} (reliable : console.device.IsReliable)
    (settled : verdict? (console.input.line 0) = some verdict) :
    (attempt settings).Yields console (verdict.map some) settings.prompt 1 1 := by
  have asked := yields_ask reliable settings.prompt
  cases first : console.input.line 0 with
  | error fault =>
    rw [first] at asked settled
    cases settled
    exact asked.bind_error
  | ok line =>
    rw [first] at asked settled
    have judged := judge_settled settings asked.did.reliable settled
    exact Yields.congr (asked.bind_ok judged) String.append_empty rfl rfl

/-- A line that settles nothing is complained about, and the question is open again. -/
theorem attempt_unsettled (settings : Settings) {console : Console}
    (reliable : console.device.IsReliable) (unsettled : verdict? (console.input.line 0) = none) :
    (attempt settings).Yields console (.ok none) (settings.prompt ++ settings.complaint ++ "\n")
      1 1 := by
  have asked := yields_ask reliable settings.prompt
  cases first : console.input.line 0 with
  | error fault => rw [first] at unsettled; cases unsettled
  | ok line =>
    rw [first] at asked unsettled
    have judged := judge_unsettled settings asked.did.reliable unsettled
    exact Yields.congr (asked.bind_ok judged) String.append_assoc.symm rfl rfl

/-- What is printed until a move is picked: for each line that is rejected the prompt and the
complaint, and the prompt once more. -/
def dialogue (settings : Settings) (rejections : Nat) : String :=
  String.join (List.replicate rejections (settings.prompt ++ settings.complaint ++ "\n"))
    ++ settings.prompt

theorem dialogue_zero (settings : Settings) : dialogue settings 0 = settings.prompt :=
  String.empty_append

theorem dialogue_succ (settings : Settings) (rejections : Nat) :
    dialogue settings (rejections + 1) =
      settings.prompt ++ settings.complaint ++ "\n" ++ dialogue settings rejections := by
  rw [dialogue, dialogue, List.replicate_succ, String.join_cons, String.append_assoc]

/-- Some line settles the choice, and there is a first one. -/
theorem exists_verdict (script : Script) :
    ∃ count verdict, (∀ place < count, verdict? (script.line place) = none) ∧
      verdict? (script.line count) = some verdict := by
  have settles : ∃ place, (verdict? (script.line place)).isSome := by
    obtain ⟨place, empty⟩ := script.exists_no_bytes
    refine ⟨place, ?_⟩
    cases read : script.line place with
    | error fault => rfl
    | ok line => rw [empty line read]; rfl
  obtain ⟨verdict, settled⟩ := Option.isSome_iff_exists.mp (Nat.find_spec settles)
  refine ⟨Nat.find settles, verdict, ?_, settled⟩
  intro place before
  simpa only [Option.not_isSome_iff_eq_none] using Nat.find_min settles before

/-- The question ends at the first line that settles it, with what that line says. -/
theorem readMove_yields (settings : Settings) {console : Console} {count : Nat}
    {verdict : Except GameError Move} (reliable : console.device.IsReliable)
    (rejected : ∀ place < count, verdict? (console.input.line place) = none)
    (settled : verdict? (console.input.line count) = some verdict) :
    (readMove settings).Yields console verdict (dialogue settings count) (count + 1)
      (count + 1) := by
  induction count generalizing console with
  | zero =>
    have tried := attempt_settled settings reliable settled
    rw [readMove_eq_bind, dialogue_zero]
    cases verdict with
    | error error => exact tried.bind_error
    | ok move =>
      have done := yields_pure tried.did.reliable move
      exact Yields.congr (tried.bind_ok done) String.append_empty rfl rfl
  | succ count ih =>
    have tried := attempt_unsettled settings reliable (rejected 0 (Nat.succ_pos _))
    have left := tried.did.input
    have rest := ih tried.did.reliable
      (by
        intro place before
        rw [left, ← Script.line_add]
        exact rejected (1 + place) (by omega))
      (by rw [left, ← Script.line_add, Nat.add_comm]; exact settled)
    rw [readMove_eq_bind, dialogue_succ]
    exact Yields.congr (tried.bind_ok rest) rfl (by omega) (by omega)

/-- A last line of any kind will do, and so will none; only a read that fails is reported. -/
theorem waitForClose_yields (settings : Settings) {console : Console}
    (reliable : console.device.IsReliable) :
    (waitForClose settings).Yields console (((console.input.line 0).map fun _ => ()).mapError .io)
      settings.closePrompt 1 1 := by
  have asked := yields_ask reliable settings.closePrompt
  cases first : console.input.line 0 with
  | error fault =>
    rw [first] at asked
    exact asked.bind_error
  | ok line =>
    rw [first] at asked
    have noted : (if line = [] then remark [.closedAtExit] else pure () : Action Unit).Yields
        (ask settings.closePrompt console).2 (.ok ()) "" 0 0 := by
      split
      · exact yields_remark asked.did.reliable _
      · exact yields_pure asked.did.reliable ()
    exact Yields.congr (asked.bind_ok noted) String.append_empty rfl rfl

end Action

namespace Game

open Roshambo.Action

/-- The title, and one line for each move with its code and its name. -/
def greeting (settings : Settings) : String :=
  settings.title ++ "\n" ++
    String.join (Move.all.map fun move => move.code.toString ++ ": " ++ move.name ++ "\n")

/-- The opponent's move, the outcome, the separator, and the last prompt. -/
def farewell (settings : Settings) (round : Round) : String :=
  settings.opponentLead ++ " " ++ round.other.name ++ "\n" ++ round.result.label ++ "\n"
    ++ settings.separator ++ "\n" ++ settings.closePrompt

theorem choose_yields (settings : Settings) {console : Console} {count : Nat}
    {verdict : Except GameError Move} (reliable : console.device.IsReliable)
    (rejected : ∀ place < count, verdict? (console.input.line place) = none)
    (settled : verdict? (console.input.line count) = some verdict) :
    (choose settings).Yields console verdict (greeting settings ++ dialogue settings count)
      (count + 1) (count + 1) := by
  have greeted := yields_print reliable settings.banner
  have same : (print settings.banner console).2.input = console.input := rfl
  rw [← same] at rejected settled
  have asked := readMove_yields settings greeted.did.reliable rejected settled
  exact Yields.congr (greeted.bind_ok asked) rfl (Nat.zero_add _) (Nat.zero_add _)

private theorem conclude_yields (settings : Settings) (round : Round) {console : Console}
    (reliable : console.device.IsReliable) :
    (conclude settings round).Yields console
      (((console.input.line 0).map fun _ => round).mapError .io) (farewell settings round) 1 1 := by
  have logged := yields_remark reliable [.finished round]
  have announced := yields_print logged.did.reliable (settings.announcement round)
  have closed := waitForClose_yields settings announced.did.reliable
  have same : (print (settings.announcement round)
    (remark [.finished round] console).2).2.input = console.input := rfl
  rw [same] at closed
  have text : "" ++ (settings.announcement round ++ settings.closePrompt) =
    farewell settings round := String.empty_append
  cases last : console.input.line 0 with
  | error fault =>
    rw [last] at closed
    exact Yields.congr (logged.bind_ok (announced.bind_ok closed.bind_error)) text rfl rfl
  | ok line =>
    rw [last] at closed
    have done := yields_pure closed.did.reliable round
    refine Yields.congr (logged.bind_ok (announced.bind_ok (closed.bind_ok done))) ?_ rfl rfl
    rw [String.append_empty, text]

/-- A game in which a move is picked goes on to the last prompt. -/
theorem play_yields (settings : Settings) (opponent : Opponent) {console : Console} {count : Nat}
    {player : Move} (reliable : console.device.IsReliable)
    (rejected : ∀ place < count, verdict? (console.input.line place) = none)
    (settled : verdict? (console.input.line count) = some (.ok player)) :
    (play settings opponent).Yields console
      (((console.input.line (count + 1)).map fun _ =>
        Round.ofMoves player opponent.play.1).mapError .io)
      (greeting settings ++ dialogue settings count ++
        farewell settings (Round.ofMoves player opponent.play.1)) (count + 2) (count + 2) := by
  have chosen := choose_yields settings reliable rejected settled
  have noted := yields_remark chosen.did.reliable (opponent.remarks opponent.play.1)
  have concluded := conclude_yields settings (Round.ofMoves player opponent.play.1)
    noted.did.reliable
  rw [noted.did.input, chosen.did.input] at concluded
  refine Yields.congr (chosen.bind_ok (noted.bind_ok concluded)) ?_ rfl rfl
  rw [String.empty_append]

/-- On a device that never fails the first line that is not rejected settles the choice; each line
before it costs a prompt and a complaint. -/
theorem run_transcript (settings : Settings) (opponent : Opponent) (console : Console)
    (reliable : console.device.IsReliable) :
    ∃ count verdict, (∀ place < count, verdict? (console.input.line place) = none) ∧
      verdict? (console.input.line count) = some verdict ∧
      (readMove settings).Yields console verdict (dialogue settings count) (count + 1)
        (count + 1) ∧
      match verdict with
      | .error error => ∃ after, run settings opponent console = (.error error, opponent, after) ∧
          Did console (greeting settings ++ dialogue settings count) (count + 1) (count + 1) after
      | .ok player => ∃ after, run settings opponent console =
            (((console.input.line (count + 1)).map fun _ =>
              Round.ofMoves player opponent.play.1).mapError .io, opponent.play.2, after) ∧
          Did console (greeting settings ++ dialogue settings count ++
            farewell settings (Round.ofMoves player opponent.play.1)) (count + 2) (count + 2)
            after := by
  obtain ⟨count, verdict, rejected, settled⟩ := exists_verdict console.input
  refine ⟨count, verdict, rejected, settled, readMove_yields settings reliable rejected settled, ?_⟩
  have chosen := choose_yields settings reliable rejected settled
  cases verdict with
  | error error =>
    have ended : choose settings console = (.error error, (choose settings console).2) :=
      Prod.ext chosen.result rfl
    exact ⟨_, run_of_choose_error ended, chosen.did⟩
  | ok player =>
    have played := play_yields settings opponent reliable rejected settled
    refine ⟨_, ?_, played.did⟩
    rw [run_eq, played.result, opponentAfter, chosen.result]

/-- One byte at a time: a rejected line, then a code that a retried read and the end of the input
cut off. -/
theorem run_transcript_hesitant :
    let console : Console := ⟨[.bytes [122, 10, 98], .fault ⟨.interrupted, none⟩, .endMark],
      ⟨some 1, none, none, 0, []⟩, []⟩
    console.device.IsReliable ∧ ∃ after,
      run .standard (.always .scissors) console =
        (.ok ⟨.paper, .scissors, .loss⟩, .always .scissors, after) ∧
      Did console (greeting .standard ++ dialogue .standard 1 ++
        farewell .standard ⟨.paper, .scissors, .loss⟩) 3 3 after := by
  intro console
  have reliable : console.device.IsReliable :=
    ⟨⟨rfl, by unfold Device.Moves; decide⟩, fun _ _ planned => by cases planned⟩
  have first : verdict? (console.input.line 0) = none := by decide +kernel
  have second : verdict? (console.input.line 1) = some (.ok .paper) := by decide +kernel
  obtain ⟨count, verdict, rejected, settled, _, game⟩ :=
    run_transcript .standard (.always .scissors) console reliable
  have one : count = 1 := by
    rcases Nat.lt_trichotomy count 1 with zero | one | more
    · rw [Nat.lt_one_iff.mp zero, first] at settled
      cases settled
    · exact one
    · rw [rejected 1 more] at second
      cases second
  subst one
  cases second.symm.trans settled
  exact ⟨reliable, game⟩

end Game

end Roshambo
