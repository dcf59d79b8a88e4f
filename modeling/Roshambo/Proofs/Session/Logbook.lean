import Roshambo.Proofs.Session.Consultation

/-! # What the log of a game tells

A game notes each rejected line before it tells the player, and the round before it announces it. So
whatever fails, and wherever, the log holds all rejected lines in their order, then what belongs to
the round if a move was read, and then whether the input was closed at the last prompt. `Logbook` is
this account of one game, along with what the player was told; every game in every session has one
(`exists_logbook`).
-/

namespace Roshambo

namespace Action

private theorem exists_rejection {line : Except Fault (List UInt8)}
    (unsettled : verdict? line = none) :
    ∃ reason, rejection? line = some reason := by
  cases line with
  | error fault => cases unsettled
  | ok bytes =>
    by_cases empty : bytes = []
    · simp only [verdict?, if_pos empty] at unsettled
      cases unsettled
    · cases typed : Move.ofTyped (Text.decode bytes) with
      | ok move =>
        simp only [verdict?, if_neg empty, typed] at unsettled
        cases unsettled
      | error reason => exact ⟨reason, by simp only [rejection?, if_neg empty, typed]⟩

private theorem exists_reasons {script : Script} {count : Nat}
    (lines : ∀ place < count, verdict? (script.line place) = none) :
    ∃ reasons : List Rejection, reasons.length = count ∧
      (∀ place < count, rejection? (script.line place) = reasons[place]?) ∧
      rejections script count = reasons.map .rejected := by
  induction count with
  | zero => exact ⟨[], rfl, fun place early => absurd early (Nat.not_lt_zero place), rfl⟩
  | succ count ih =>
    obtain ⟨reasons, rfl, each, noted⟩ := ih fun place early => lines place (by omega)
    obtain ⟨reason, last⟩ := exists_rejection (lines reasons.length (Nat.lt_succ_self _))
    refine ⟨reasons ++ [reason], by rw [List.length_append]; rfl, ?_, ?_⟩
    · intro place early
      by_cases before : place < reasons.length
      · rw [each place before, List.getElem?_append_left before]
      · have here : place = reasons.length := by omega
        rw [here, last, List.getElem?_concat_length]
    · rw [rejections_add, noted, rejections_one, ← Script.line_add, Nat.add_zero, last,
        List.map_append]
      rfl

end Action

namespace Game

open Roshambo.Action

/-- Announce a round and ask for the last line of a game. -/
def lastLine (settings : Settings) (round : Round) : Action (List UInt8) := do
  announce settings round
  ask settings.closePrompt

/-- What is noted of the last line. -/
def closing : Except GameError (List UInt8) → List LogEntry
  | .ok [] => [.closedAtExit]
  | _ => []

/-- The last line is the next one of the input, if it comes to that. -/
theorem lastLine_eq_ok {settings : Settings} {round : Round} {console : Console} {line : List UInt8}
    (read : (lastLine settings round console).1 = .ok line) : console.input.line 0 = .ok line := by
  rw [lastLine, announce, bind_apply] at read
  rcases print_cases console (settings.announcement round) with
    ⟨printed, _⟩ | ⟨fault, shown, cut, _⟩
  · rw [printed] at read
    rcases ask_cases { console with
        device := console.device.carried (settings.announcement round) 0 } settings.closePrompt with
      ⟨fault, device, shown, unasked, _⟩ | asked
    · simp only [unasked] at read
      cases read
    · simp only [asked] at read
      cases last : console.input.line 0 with
      | ok bytes => rw [last] at read; cases read; rfl
      | error fault => rw [last] at read; cases read
  · rw [cut] at read
    cases read

/-- A game is concluded with the last line: the round is noted before, and then whether the input
was closed. -/
private theorem conclude_lastLine (settings : Settings) (round : Round) (console : Console) :
    let noted := { console with log := console.log ++ [.finished round] }
    (conclude settings round console).1 = (lastLine settings round noted).1.map (fun _ => round) ∧
      (conclude settings round console).2.log =
        noted.log ++ closing (lastLine settings round noted).1 := by
  intro noted
  have concluded : conclude settings round console = (do
      announce settings round
      waitForClose settings
      return round : Action Round) noted := rfl
  rw [concluded, lastLine, announce, bind_apply, bind_apply]
  rcases print_cases noted (settings.announcement round) with ⟨printed, _⟩ | ⟨fault, shown, cut, _⟩
  · rw [printed]
    simp only [waitForClose, bind_apply]
    rcases ask_cases { noted with
        device := noted.device.carried (settings.announcement round) 0 } settings.closePrompt with
      ⟨fault, device, shown, unasked, _⟩ | asked
    · rw [unasked]
      exact ⟨rfl, (List.append_nil _).symm⟩
    · rw [asked]
      cases noted.input.line 0 with
      | error fault => exact ⟨rfl, (List.append_nil _).symm⟩
      | ok line =>
        cases line with
        | nil => exact ⟨rfl, rfl⟩
        | cons byte line => exact ⟨rfl, (List.append_nil _).symm⟩
  · rw [cut]
    exact ⟨rfl, (List.append_nil _).symm⟩

end Game

namespace Session

open Roshambo.Action

def roundOf (session : Session) (player : Move) : Round :=
  Round.ofMoves player session.opponent.play.1

/-- How the last line of a game is read, once the round has been noted and announced; if it does not
come to that, an error. -/
def lastLine (session : Session) (player : Move) : Except GameError (List UInt8) :=
  (Game.lastLine session.settings (session.roundOf player)
    { session.choosing.2 with
      log := session.choosing.2.log ++ session.opponent.remarks session.opponent.play.1 ++
        [.finished (session.roundOf player)] }).1

def roundTexts (session : Session) (player : Move) : List String :=
  ["Player chose " ++ player.name] ++
    (if session.opponent.isRandom then
      ["Random strategy picked " ++ session.opponent.play.1.name] else []) ++
    ["Opponent plays " ++ session.opponent.play.1.name,
      "Round finished: " ++ (session.roundOf player).json]

def closingTexts (session : Session) (player : Move) : List String :=
  match session.lastLine player with
  | .ok [] => ["Input closed at exit prompt"]
  | _ => []

/-- The device as it is when the player is to be told of a rejected line, counted from zero, and has
been told of all before it. -/
def complaining (session : Session) (place : Nat) : Device :=
  session.cleared.console.device.carried
    (Game.greeting session.settings ++ dialogue session.settings place) (place + 1)

/-- What a game has printed when it ends, if some lines were rejected and the player was told of
some: whole exchanges, then a part. -/
inductive Printed (session : Session) : (rejected told : Nat) → List UInt8 → Prop
  | greeting {shown : List UInt8}
      (isPrefix : shown <+: Text.encode (Game.greeting session.settings)) :
      Printed session 0 0 shown
  | prompt {count : Nat} {shown : List UInt8}
      (isPrefix : shown <+: Text.encode session.settings.prompt) :
      Printed session count count
        (Text.encode (Game.greeting session.settings ++ exchanges session.settings count) ++ shown)
  | complaint {count : Nat} {cut : List UInt8}
      (isPrefix : cut <+: Text.encode session.settings.complaintLine)
      (isCut : cut ≠ Text.encode session.settings.complaintLine) :
      Printed session (count + 1) count
        (Text.encode (Game.greeting session.settings ++ dialogue session.settings count) ++ cut)
  | farewell {count : Nat} {player : Move} {shown : List UInt8}
      (chosen : session.choice? .run = some player)
      (isPrefix : shown <+:
        Text.encode (Game.farewell session.settings (session.roundOf player))) :
      Printed session count count
        (Text.encode (Game.greeting session.settings ++ dialogue session.settings count) ++ shown)

/-- An account of a game in which lines were rejected for the reasons given and the player was told
of a number of them. -/
structure Logbook (session : Session) (reasons : List Rejection) (told : Nat) : Prop where
  rejected : ∀ place < reasons.length,
    rejection? (session.console.input.line place) = reasons[place]?
  taken : (∃ fault, session.choosing.1 = .error (.io fault)) ∧
        session.choosing.2.input = session.console.input.after reasons.length ∨
      verdict? (session.console.input.line reasons.length) = some session.choosing.1 ∧
        session.choosing.2.input = session.console.input.after (reasons.length + 1)
  unchosen : session.choice? .run = none →
    (session.step .run).1.log.map LogEntry.text =
        reasons.map (fun reason => "Rejected input: " ++ reason.message) ∧
      (session.step .run).2.opponent = session.opponent
  -- The round is noted and the opponent has moved on, whatever fails behind the choice.
  chosen : ∀ player, session.choice? .run = some player →
    (session.step .run).1.log.map LogEntry.text =
        reasons.map (fun reason => "Rejected input: " ++ reason.message) ++
          session.roundTexts player ++ session.closingTexts player ∧
      (session.step .run).2.opponent = session.opponent.play.2 ∧
      (session.step .run).1.result =
        (session.lastLine player).map fun _ => .round (session.roundOf player)
  lastLine : ∀ player line, session.choice? .run = some player →
    session.lastLine player = .ok line →
      session.console.input.line (reasons.length + 1) = .ok line
  complained : ∀ place < told,
    ((session.complaining place).write (Text.encode session.settings.complaintLine)).1 = .ok ()
  mostly : told = reasons.length ∨ told + 1 = reasons.length
  missed : told + 1 = reasons.length ↔ ∃ place fault, place + 1 = reasons.length ∧
    ((session.complaining place).write (Text.encode session.settings.complaintLine)).1 =
      .error fault
  printed : session.Printed reasons.length told (session.step .run).1.output

/-- An account of a game up to the choice of a move. -/
structure Account (session : Session) (rejected told : Nat) : Prop where
  lines : ∀ place < rejected, verdict? (session.console.input.line place) = none
  taken : (∃ fault, session.choosing.1 = .error (.io fault)) ∧
        session.choosing.2.input = session.console.input.after rejected ∨
      verdict? (session.console.input.line rejected) = some session.choosing.1 ∧
        session.choosing.2.input = session.console.input.after (rejected + 1)
  log : session.choosing.2.log =
    rejections session.console.input rejected ++ settling session.choosing.1
  complained : ∀ place < told,
    ((session.complaining place).write (Text.encode session.settings.complaintLine)).1 = .ok ()
  missed : told = rejected ∨ told + 1 = rejected ∧ ∃ fault,
    ((session.complaining told).write (Text.encode session.settings.complaintLine)).1 =
      .error fault
  broken : ∀ error, session.choosing.1 = .error error →
    session.Printed rejected told session.choosing.2.device.output
  answered : ∀ player, session.choosing.1 = .ok player →
    told = rejected ∧ session.choosing.2.device.output =
      Text.encode (Game.greeting session.settings ++ dialogue session.settings told)

theorem exists_account (session : Session) : ∃ rejected told, session.Account rejected told := by
  rcases choose_cases session.settings session.cleared.console with
    greeted | ⟨fault, shown, cut, isPrefix⟩
  · obtain ⟨rejected, told, asked⟩ := readMove_asked session.settings
      { session.cleared.console with
        device := session.cleared.console.device.carried (Game.greeting session.settings) 0 }
    have same : session.choosing = readMove session.settings
        { session.cleared.console with
          device := session.cleared.console.device.carried (Game.greeting session.settings) 0 } :=
      greeted
    rw [← same] at asked
    have complaining (place : Nat) :
        (session.cleared.console.device.carried (Game.greeting session.settings) 0).carried
          (dialogue session.settings place) (place + 1) = session.complaining place := by
      rw [Device.carried_carried, Nat.zero_add]
      rfl
    obtain ⟨shown, output, reached⟩ := asked.output
    have written : session.choosing.2.device.output =
        Text.encode (Game.greeting session.settings ++ exchanges session.settings told) ++
          shown := by
      rw [output, Device.output_carried, Text.encode_append]
      rfl
    rw [complaining] at reached
    refine ⟨rejected, told, asked.lines, asked.taken, asked.log, ?_, ?_, ?_, ?_⟩
    · intro place early
      rw [← complaining]
      exact asked.complained place early
    · generalize session.choosing.1 = result at reached
      cases reached with
      | prompt => exact .inl rfl
      | complaint failed => exact .inr ⟨rfl, _, failed⟩
    · intro error _
      rw [written]
      generalize session.choosing.1 = result at reached
      cases reached with
      | prompt isPrefix => exact .prompt isPrefix
      | complaint _ isPrefix isCut =>
        rw [← List.append_assoc, ← Text.encode_append, String.append_assoc]
        exact .complaint isPrefix isCut
    · intro player chosen
      rw [written]
      rw [chosen] at reached
      cases reached with
      | prompt _ whole =>
        refine ⟨rfl, ?_⟩
        rw [whole rfl, ← Text.encode_append, String.append_assoc]
        rfl
  · have same : session.choosing = (.error (.io fault),
        { session.cleared.console with device := session.cleared.console.device.take shown }) := cut
    refine ⟨0, 0, ?_, .inl ⟨⟨fault, by rw [same]⟩, by rw [same]; rfl⟩, by rw [same]; rfl, ?_,
      .inl rfl, ?_, ?_⟩
    · exact fun place early => absurd early (Nat.not_lt_zero place)
    · exact fun place early => absurd early (Nat.not_lt_zero place)
    · intro error _
      rw [same, Device.output_take]
      exact .greeting isPrefix
    · intro player chosen
      rw [same] at chosen
      cases chosen

theorem choosing_of_choice {session : Session} {player : Move}
    (chosen : session.choice? .run = some player) : session.choosing.1 = .ok player := by
  rw [choice?] at chosen
  cases ended : session.choosing.1 with
  | ok move => rw [ended] at chosen; cases chosen; rfl
  | error error => rw [ended] at chosen; cases chosen

theorem choosing_of_no_choice {session : Session} (unchosen : session.choice? .run = none) :
    ∃ error, session.choosing.1 = .error error := by
  rw [choice?] at unchosen
  cases ended : session.choosing.1 with
  | ok move => rw [ended] at unchosen; cases unchosen
  | error error => exact ⟨error, rfl⟩

/-- A game in which no move is chosen reports on the choice alone. -/
theorem step_run_of_no_choice {session : Session} (unchosen : session.choice? .run = none) :
    (session.step .run).1.log = session.choosing.2.log ∧
      (session.step .run).1.output = session.choosing.2.device.output := by
  obtain ⟨error, failed⟩ := choosing_of_no_choice unchosen
  obtain ⟨_, output, log, _⟩ := session.step_run
  rw [Game.play_of_choose_error failed] at output log
  exact ⟨log, output⟩

/-- A game in which a move is chosen reports on the choice, the round and the last line. -/
theorem step_run_of_choice {session : Session} {player : Move}
    (chosen : session.choice? .run = some player) :
    (session.step .run).1.log = session.choosing.2.log ++
        session.opponent.remarks session.opponent.play.1 ++ [.finished (session.roundOf player)] ++
        Game.closing (session.lastLine player) ∧
      (session.step .run).1.result =
        (session.lastLine player).map fun _ => .round (session.roundOf player) := by
  obtain ⟨result, _, log, _⟩ := session.step_run
  rw [Game.play_of_choose_ok (choosing_of_choice chosen)] at result log
  obtain ⟨concluded, noted⟩ := Game.conclude_lastLine session.settings (session.roundOf player)
    (remark (session.opponent.remarks session.opponent.play.1) session.choosing.2).2
  have twice (last : Except GameError (List UInt8)) (round : Round) :
      (last.map fun _ => round).map Answer.round = last.map fun _ => .round round := by
    cases last <;> rfl
  refine ⟨log.trans noted, result.trans ?_⟩
  exact (congrArg (Except.map Answer.round) concluded).trans (twice _ _)

private theorem map_text_remarks (opponent : Opponent) (move : Move) :
    (opponent.remarks move).map LogEntry.text =
      (if opponent.isRandom then ["Random strategy picked " ++ move.name] else []) ++
        ["Opponent plays " ++ move.name] := by
  cases opponent <;> rfl

private theorem map_text_closing (session : Session) (player : Move) :
    (Game.closing (session.lastLine player)).map LogEntry.text = session.closingTexts player := by
  unfold Game.closing closingTexts
  split <;> rfl

theorem map_text_rejected (reasons : List Rejection) :
    (reasons.map LogEntry.rejected).map LogEntry.text =
      reasons.map fun reason => "Rejected input: " ++ reason.message := List.map_map

section Account

variable {session : Session} {rejected told : Nat} (account : session.Account rejected told)
include account

private theorem Account.texts_unchosen {reasons : List Rejection}
    (noted : rejections session.console.input rejected = reasons.map .rejected)
    (unchosen : session.choice? .run = none) :
    (session.step .run).1.log.map LogEntry.text =
      reasons.map fun reason => "Rejected input: " ++ reason.message := by
  obtain ⟨error, failed⟩ := choosing_of_no_choice unchosen
  have log := account.log
  rw [noted, failed, settling, List.append_nil] at log
  rw [(step_run_of_no_choice unchosen).1, log, map_text_rejected]

private theorem Account.texts_chosen {reasons : List Rejection} {player : Move}
    (noted : rejections session.console.input rejected = reasons.map .rejected)
    (chosen : session.choice? .run = some player) :
    (session.step .run).1.log.map LogEntry.text =
      reasons.map (fun reason => "Rejected input: " ++ reason.message) ++
        session.roundTexts player ++ session.closingTexts player := by
  have log := account.log
  rw [noted, choosing_of_choice chosen, settling] at log
  rw [(step_run_of_choice chosen).1, log]
  simp only [List.map_append, map_text_rejected, map_text_remarks, map_text_closing,
    List.append_assoc, roundTexts]
  rfl

/-- The last line is the one behind the line of the choice. -/
theorem Account.lastLine_eq_ok {player : Move} {line : List UInt8}
    (chosen : session.choice? .run = some player) (read : session.lastLine player = .ok line) :
    session.console.input.line (rejected + 1) = .ok line := by
  have next := Game.lastLine_eq_ok read
  rcases account.taken with ⟨⟨fault, broken⟩, _⟩ | ⟨_, input⟩
  · rw [choosing_of_choice chosen] at broken
    cases broken
  · rw [input, ← Script.line_add] at next
    exact next

private theorem Account.missed_iff :
    told + 1 = rejected ↔ ∃ place fault, place + 1 = rejected ∧
      ((session.complaining place).write (Text.encode session.settings.complaintLine)).1 =
        .error fault := by
  constructor
  · intro short
    rcases account.missed with all | ⟨_, fault, failed⟩
    · omega
    · exact ⟨told, fault, short, failed⟩
  · rintro ⟨place, fault, last, failed⟩
    rcases account.missed with all | ⟨short, _⟩
    · rw [account.complained place (by omega)] at failed
      cases failed
    · exact short

theorem Account.printed : session.Printed rejected told (session.step .run).1.output := by
  cases choice : session.choice? .run with
  | none =>
    obtain ⟨error, failed⟩ := choosing_of_no_choice choice
    rw [(step_run_of_no_choice choice).2]
    exact account.broken error failed
  | some player =>
    obtain ⟨rfl, answered⟩ := account.answered player (choosing_of_choice choice)
    obtain ⟨_, _, tells⟩ := step_of_choice choice
    rw [answered] at tells
    cases tells with
    | whole output =>
      rw [output]
      exact .farewell choice (List.prefix_refl _)
    | cut output isPrefix =>
      rw [output]
      exact .farewell choice isPrefix

end Account

/-- Every game in every session has an account; the player was told of all rejected lines, or of all
but the last if that complaint failed. -/
theorem exists_logbook (session : Session) : ∃ reasons told, session.Logbook reasons told := by
  obtain ⟨rejected, told, account⟩ := session.exists_account
  obtain ⟨reasons, rfl, each, noted⟩ := exists_reasons account.lines
  refine ⟨reasons, told, ?_⟩
  exact {
    rejected := each
    taken := account.taken
    unchosen unchosen := ⟨account.texts_unchosen noted unchosen, (step_of_no_choice unchosen).1⟩
    chosen player chosen := ⟨account.texts_chosen noted chosen, (step_of_choice chosen).1,
      (step_run_of_choice chosen).2⟩
    lastLine player line := account.lastLine_eq_ok
    complained := account.complained
    mostly := account.missed.imp_right And.left
    missed := account.missed_iff
    printed := account.printed }

end Session

end Roshambo
