import Roshambo.Proofs.Game.Choosing
import Roshambo.Proofs.Session.Steps

/-! # When the opponent plays

The opponent plays once in each game in which a move is chosen, and at no other time: not in the
single stages of a game, not in a game that fails before the choice, and no second time in one that
fails behind it. Its moves are those that it would play alone, in turn, and the round of a game is
made with the move that was played for it (`opponent_consulted`). The log tells of every move that
the opponent plays, so the moves can be read off the reports.
-/

namespace Roshambo

/-- The move of which an entry says that the opponent plays it. -/
def LogEntry.played? : LogEntry → Option Move
  | played move => some move
  | _ => none

def playedMoves (log : List LogEntry) : List Move := log.filterMap LogEntry.played?

theorem playedMoves_append (first second : List LogEntry) :
    playedMoves (first ++ second) = playedMoves first ++ playedMoves second :=
  List.filterMap_append

namespace Opponent

theorem advance_add (first second : Nat) (opponent : Opponent) :
    advance (first + second) opponent = advance second (advance first opponent) := by
  induction first generalizing opponent with
  | zero => rw [Nat.zero_add]; rfl
  | succ first ih => rw [Nat.succ_add]; exact ih opponent.play.2

theorem moves_add (first second : Nat) (opponent : Opponent) :
    moves (first + second) opponent =
      moves first opponent ++ moves second (advance first opponent) := by
  induction first generalizing opponent with
  | zero => rw [Nat.zero_add]; rfl
  | succ first ih => rw [Nat.succ_add]; exact congrArg (_ :: ·) (ih opponent.play.2)

/-- Each of the moves is the next one of the opponent as it is by then. -/
theorem moves_getElem? {count place : Nat} (early : place < count) (opponent : Opponent) :
    (moves count opponent)[place]? = some (advance place opponent).play.1 := by
  obtain ⟨more, rfl⟩ := Nat.exists_eq_add_of_lt early
  rw [Nat.add_assoc, moves_add, List.getElem?_append_right (Nat.le_of_eq (length_moves _ _)),
    length_moves, Nat.sub_self]
  rfl

private theorem playedMoves_remarks (opponent : Opponent) (move : Move) :
    playedMoves (opponent.remarks move) = [move] := by
  cases opponent <;> rfl

end Opponent

namespace Device

/-- A write takes the first bytes of a text, and all of them if it succeeds. -/
private theorem write_output (device : Device) (bytes : List UInt8) :
    ∃ shown, (device.write bytes).2.output = device.output ++ shown ∧ shown <+: bytes ∧
      ((device.write bytes).1.isOk → shown = bytes) := by
  rcases device.write_cases bytes with whole | ⟨fault, shown, cut, isPrefix, _⟩
  · rw [whole]
    exact ⟨bytes, output_take _ _, List.prefix_refl _, fun _ => rfl⟩
  · rw [cut]
    exact ⟨shown, output_take _ _, isPrefix, fun succeeds => by cases succeeds⟩

end Device

namespace Action

/-- An action prints a text, as far as it comes, and tells of no move of the opponent. -/
def Shows {α : Type} (action : Action α) (text : String) : Prop :=
  ∀ console, ∃ shown, (action console).2.device.output = console.device.output ++ shown ∧
    shown <+: Text.encode text ∧ ((action console).1.isOk → shown = Text.encode text) ∧
    playedMoves (action console).2.log = playedMoves console.log

section Shows

variable {α β : Type}

private theorem shows_pure (value : α) : (pure value : Action α).Shows "" :=
  fun _ => ⟨[], (List.append_nil _).symm, List.nil_prefix, fun _ => rfl, rfl⟩

private theorem shows_remark {entries : List LogEntry} (silent : playedMoves entries = []) :
    (remark entries).Shows "" := by
  intro console
  refine ⟨[], (List.append_nil _).symm, List.nil_prefix, fun _ => rfl, ?_⟩
  change playedMoves (console.log ++ entries) = _
  rw [playedMoves_append, silent, List.append_nil]

private theorem shows_flush : flush.Shows "" := by
  intro console
  refine ⟨[], ?_, List.nil_prefix, fun _ => rfl, rfl⟩
  rw [flush, Device.flush_eq]
  exact (List.append_nil _).symm

private theorem shows_readLine : readLine.Shows "" :=
  fun _ => ⟨[], (List.append_nil _).symm, List.nil_prefix, fun _ => rfl, rfl⟩

private theorem shows_print (text : String) : (print text).Shows text := by
  intro console
  obtain ⟨shown, output, isPrefix, whole⟩ := console.device.write_output (Text.encode text)
  refine ⟨shown, output, isPrefix, fun succeeds => whole ?_, rfl⟩
  change ((console.device.write (Text.encode text)).1.mapError GameError.io).isOk at succeeds
  cases ended : (console.device.write (Text.encode text)).1 with
  | ok => rfl
  | error fault => rw [ended] at succeeds; cases succeeds

theorem Shows.bind {first : Action α} {next : α → Action β} {text more : String}
    (head : first.Shows text) (tail : ∀ value, (next value).Shows more) :
    (first >>= next).Shows (text ++ more) := by
  intro console
  obtain ⟨shown, output, isPrefix, whole, silent⟩ := head console
  rw [bind_apply, Text.encode_append]
  rcases ended : first console with ⟨result, middle⟩
  rw [ended] at output whole silent
  cases result with
  | error error =>
    refine ⟨shown, output, isPrefix.trans (List.prefix_append _ _), ?_, silent⟩
    intro succeeds
    cases succeeds
  | ok value =>
    obtain ⟨rest, further, isRest, wholeRest, still⟩ := tail value middle
    refine ⟨shown ++ rest, ?_, ?_, fun succeeds => ?_, still.trans silent⟩
    · rw [further, output, List.append_assoc]
    · rw [whole rfl]
      exact (List.prefix_append_right_inj _).mpr isRest
    · rw [whole rfl, wholeRest succeeds]

theorem Shows.silent {action : Action α} {text : String} (shows : action.Shows text)
    (console : Console) : playedMoves (action console).2.log = playedMoves console.log := by
  obtain ⟨_, _, _, _, silent⟩ := shows console
  exact silent

private theorem shows_ask (prompt : String) : (ask prompt).Shows prompt := by
  have asked := (shows_print prompt).bind fun _ => shows_flush.bind fun _ => shows_readLine
  rw [String.append_empty, String.append_empty] at asked
  exact asked

private theorem shows_waitForClose (settings : Settings) :
    (waitForClose settings).Shows settings.closePrompt := by
  rw [← String.append_empty (s := settings.closePrompt)]
  apply (shows_ask _).bind
  intro line
  split
  · exact shows_remark rfl
  · exact shows_pure _

end Shows

/-- An action that succeeds has come through its first part. -/
theorem bind_eq_ok {α β : Type} {first : Action α} {next : α → Action β} {console : Console}
    {value : β} (done : ((first >>= next) console).1 = .ok value) :
    ∃ middle between, first console = (.ok middle, between) ∧
      (next middle between).1 = .ok value := by
  rw [bind_apply] at done
  split at done
  next middle between came => exact ⟨middle, between, came, done⟩
  next => cases done

/-- The notes of a choice tell of no move of the opponent. -/
theorem Course.playedMoves_eq {before after : Console} {result : Except GameError Move}
    (course : Course before result after) : playedMoves after.log = playedMoves before.log := by
  have rejected (script : Script) (count : Nat) : playedMoves (rejections script count) = [] := by
    rw [playedMoves, rejections, List.filterMap_filterMap, List.filterMap_eq_nil_iff]
    intro place _
    cases rejection? (script.line place) <;> rfl
  cases course with
  | broken noted => rw [noted.log, playedMoves_append, rejected, List.append_nil]
  | settled _ _ _ log =>
    rw [log, playedMoves_append, playedMoves_append, rejected, List.nil_append]
    cases result <;> exact List.append_nil _

end Action

namespace Game

open Roshambo.Action

private theorem shows_conclude (settings : Settings) (round : Round) :
    (conclude settings round).Shows (farewell settings round) := by
  have noted : (remark [.finished round]).Shows "" := shows_remark rfl
  have shown := noted.bind fun _ => (shows_print (settings.announcement round)).bind fun _ =>
    (shows_waitForClose settings).bind fun _ => shows_pure round
  rw [String.empty_append, String.append_empty] at shown
  exact shown

private theorem conclude_result (settings : Settings) (round : Round) (console : Console) :
    (conclude settings round console).1 = .ok round ∨
      ∃ fault, (conclude settings round console).1 = .error (.io fault) := by
  have opened := neverCloses_conclude settings round console
  rcases ended : (conclude settings round console).1 with error | value
  · rw [ended] at opened
    cases error with
    | inputClosed => exact absurd rfl opened
    | io fault => exact .inr ⟨fault, rfl⟩
  · obtain ⟨_, noted, _, announced⟩ := bind_eq_ok ended
    obtain ⟨_, told, _, closed⟩ := bind_eq_ok announced
    obtain ⟨_, asked, _, given⟩ := bind_eq_ok closed
    exact .inl given.symm

end Game

namespace Game

open Roshambo.Action

/-- A game in which no move is chosen is its choice. -/
theorem play_of_choose_error {settings : Settings} {opponent : Opponent} {console : Console}
    {error : GameError} (failed : (choose settings console).1 = .error error) :
    play settings opponent console = (.error error, (choose settings console).2) := by
  rw [play, bind_apply, ← Prod.eta (choose settings console), failed]

/-- Behind the choice the opponent's move is noted and the round concluded. -/
theorem play_of_choose_ok {settings : Settings} {opponent : Opponent} {console : Console}
    {player : Move} (chosen : (choose settings console).1 = .ok player) :
    play settings opponent console =
      conclude settings (Round.ofMoves player opponent.play.1)
        (remark (opponent.remarks opponent.play.1) (choose settings console).2).2 := by
  rw [play, bind_apply, ← Prod.eta (choose settings console), chosen]
  rfl

end Game

namespace Step

open Roshambo.Action

/-- In a step that is no game the opponent plays no move. -/
private theorem action_silent (settings : Settings) (opponent : Opponent) {step : Step}
    (alone : step ≠ .run) (console : Console) :
    playedMoves (step.action settings opponent console).2.log = playedMoves console.log := by
  cases step with
  | welcome =>
    rw [action, answering_apply]
    exact (shows_print _).silent console
  | readMove =>
    rw [action, answering_apply]
    exact (readMove_course settings console).playedMoves_eq
  | announce round =>
    rw [action, answering_apply]
    exact (shows_print _).silent console
  | waitForClose =>
    rw [action, answering_apply]
    exact (shows_waitForClose settings).silent console
  | run => exact absurd rfl alone

end Step

namespace Report

def played (report : Report) : List Move := playedMoves report.log

/-- What a step has to show for a round behind what was already written: the round is announced and
is the result, or a fault cuts the announcement short. -/
inductive Tells (settings : Settings) (round : Round) (written : List UInt8) (report : Report) :
    Prop
  | whole (output : report.output = written ++ Text.encode (Game.farewell settings round))
      (result : report.result = .ok (.round round)) : Tells settings round written report
  | cut {shown : List UInt8} {fault : Fault} (output : report.output = written ++ shown)
      (isPrefix : shown <+: Text.encode (Game.farewell settings round))
      (result : report.result = .error (.io fault)) : Tells settings round written report

end Report

namespace Session

/-- How a game would go up to the choice of a move. -/
def choosing (session : Session) : Except GameError Move × Console :=
  Game.choose session.settings session.cleared.console

/-- The move that is chosen in a step; there is one only in a game that comes so far. -/
def choice? (session : Session) : Step → Option Move
  | .run => session.choosing.1.toOption
  | _ => none

def chosen (session : Session) : List Step → List Move
  | [] => []
  | next :: steps => (session.choice? next).toList ++ chosen (session.step next).2 steps

private theorem chosen_append (session : Session) (first second : List Step) :
    session.chosen (first ++ second) =
      session.chosen first ++ (session.after first).chosen second := by
  induction first generalizing session with
  | nil => rfl
  | cons next first ih =>
    rw [List.cons_append, chosen, ih, chosen, List.append_assoc]
    rfl

section Step

variable {session : Session} {next : Step}

/-- What a step reports that is a game, in terms of the game. -/
theorem step_run (session : Session) :
    (session.step .run).1.result =
        (Game.play session.settings session.opponent session.cleared.console).1.map .round ∧
      (session.step .run).1.output =
        (Game.play session.settings session.opponent session.cleared.console).2.device.output ∧
      (session.step .run).1.log =
        (Game.play session.settings session.opponent session.cleared.console).2.log ∧
      (session.step .run).2.opponent =
        Game.opponentAfter session.settings session.opponent session.cleared.console := by
  rw [step_eq, act, Step.action, Step.answering_apply]
  exact ⟨rfl, rfl, rfl, rfl⟩

/-- A step in which no move is chosen leaves the opponent as it was. -/
theorem step_of_no_choice (unchosen : session.choice? next = none) :
    (session.step next).2.opponent = session.opponent ∧ (session.step next).1.played = [] := by
  by_cases game : next = .run
  · subst game
    obtain ⟨_, _, log, opponent⟩ := session.step_run
    have course := Action.choose_course session.settings session.cleared.console
    cases ended : (Game.choose session.settings session.cleared.console).1 with
    | ok player =>
      rw [choice?, choosing, ended] at unchosen
      cases unchosen
    | error error =>
      constructor
      · rw [opponent, Game.opponentAfter, ended]
      · rw [Report.played, log, Game.play_of_choose_error ended]
        exact course.playedMoves_eq
  · rw [step_eq]
    constructor
    · cases next with
      | run => exact absurd rfl game
      | _ => rfl
    · exact Step.action_silent _ _ game _

/-- A step in which a move is chosen has the opponent play once, whether or not it succeeds. -/
theorem step_of_choice {player : Move} (chosen : session.choice? next = some player) :
    (session.step next).2.opponent = session.opponent.play.2 ∧
      (session.step next).1.played = [session.opponent.play.1] ∧
      (session.step next).1.Tells session.settings (Round.ofMoves player session.opponent.play.1)
        session.choosing.2.device.output := by
  cases next with
  | run =>
    obtain ⟨result, output, log, opponent⟩ := session.step_run
    have course := Action.choose_course session.settings session.cleared.console
    have ended : (Game.choose session.settings session.cleared.console).1 = .ok player := by
      rw [choice?, choosing] at chosen
      cases ended : (Game.choose session.settings session.cleared.console).1 with
      | ok move =>
        rw [ended] at chosen
        cases chosen
        rfl
      | error error =>
        rw [ended] at chosen
        cases chosen
    let round := Round.ofMoves player session.opponent.play.1
    let noted := (Action.remark (session.opponent.remarks session.opponent.play.1)
      session.choosing.2).2
    obtain ⟨shown, further, isPrefix, whole, silent⟩ :=
      Game.shows_conclude session.settings round noted
    rw [Game.play_of_choose_ok ended] at result output log
    refine ⟨?_, ?_, ?_⟩
    · rw [opponent, Game.opponentAfter, ended]
    · have unplayed : playedMoves session.choosing.2.log = [] := course.playedMoves_eq
      rw [Report.played, log]
      refine silent.trans ?_
      change playedMoves (session.choosing.2.log ++ _) = _
      rw [playedMoves_append, unplayed, Opponent.playedMoves_remarks]
      rfl
    · rcases Game.conclude_result session.settings round noted with done | ⟨fault, failed⟩
      · rw [whole (by rw [done]; rfl)] at further
        exact .whole (output.trans further) (result.trans (congrArg (Except.map Answer.round) done))
      · exact .cut (output.trans further) isPrefix
          (result.trans (congrArg (Except.map Answer.round) failed))
  | _ => cases chosen

end Step

theorem settings_after (session : Session) (steps : List Step) :
    (session.after steps).settings = session.settings := by
  induction steps generalizing session with
  | nil => rfl
  | cons next steps ih =>
    refine (ih (session.step next).2).trans ?_
    rw [step_eq]

/-- The opponent has moved on once for each chosen move, and has played its own moves in turn. -/
theorem after_opponent (session : Session) (steps : List Step) :
    (session.after steps).opponent = session.opponent.advance (session.chosen steps).length ∧
      (session.reports steps).flatMap Report.played =
        session.opponent.moves (session.chosen steps).length := by
  induction steps generalizing session with
  | nil => exact ⟨rfl, rfl⟩
  | cons next steps ih =>
    -- The later steps have the opponent as the first one leaves it.
    obtain ⟨opponent, played⟩ := ih (session.step next).2
    rw [reports_cons, List.flatMap_cons, played, chosen, List.length_append, Opponent.advance_add,
      Opponent.moves_add]
    change (Session.after (session.step next).2 steps).opponent = _ ∧ _
    rw [opponent]
    cases choice : session.choice? next with
    | none =>
      obtain ⟨same, silent⟩ := step_of_no_choice choice
      rw [same, silent]
      exact ⟨rfl, rfl⟩
    | some player =>
      obtain ⟨advanced, move, _⟩ := step_of_choice choice
      rw [advanced, move]
      exact ⟨rfl, rfl⟩

/-- A step is come to with the moves chosen that are chosen before it, and it adds its own. -/
private theorem length_chosen_take {session : Session} {steps : List Step} {index : Nat}
    {next : Step} {player : Move} (here : steps[index]? = some next)
    (choice : (session.after (steps.take index)).choice? next = some player) :
    (session.chosen (steps.take index)).length < (session.chosen steps).length := by
  have whole : steps = steps.take index ++ next :: steps.drop (index + 1) := by
    obtain ⟨within, found⟩ := List.getElem?_eq_some_iff.mp here
    rw [← found, List.getElem_cons_drop, List.take_append_drop]
  have total := congrArg session.chosen whole
  rw [chosen_append, chosen, choice] at total
  rw [total]
  simp

/-- The opponent plays once in each game in which a move is chosen, with the first moves that it
would play alone, even if the game fails afterwards. -/
theorem opponent_consulted (session : Session) (steps : List Step) :
    let count := (session.chosen steps).length
    let played := (session.reports steps).flatMap Report.played
    (session.after steps).opponent = session.opponent.advance count ∧
    played = session.opponent.moves count ∧
    (∀ index next, steps[index]? = some next →
      let before := session.after (steps.take index)
      let earlier := (session.chosen (steps.take index)).length
      match before.choice? next with
      | none => (before.step next).2.opponent = before.opponent ∧ (before.step next).1.played = []
      | some player => ∃ other, (session.opponent.moves count)[earlier]? = some other ∧
          -- It has moved on also if the game fails behind the choice.
          (before.step next).2.opponent = before.opponent.play.2 ∧
          (before.step next).1.played = [other] ∧
          (before.step next).1.Tells session.settings (Round.ofMoves player other)
            before.choosing.2.device.output) ∧
    ∀ (twin : Session) (others : List Step), twin.opponent = session.opponent →
      ∀ place < count, place < (twin.chosen others).length →
        ((twin.reports others).flatMap Report.played)[place]? = played[place]? := by
  intro count played
  obtain ⟨opponent, moves⟩ := session.after_opponent steps
  refine ⟨opponent, moves, ?_, ?_⟩
  · intro index next here before earlier
    obtain ⟨advanced, _⟩ := session.after_opponent (steps.take index)
    split
    · next unchosen => exact step_of_no_choice unchosen
    · next player choice =>
      obtain ⟨onward, move, tells⟩ := step_of_choice choice
      refine ⟨before.opponent.play.1, ?_, onward, move, ?_⟩
      · rw [Opponent.moves_getElem? (length_chosen_take here choice), ← advanced]
      · rw [← session.settings_after (steps.take index)]
        exact tells
  · intro twin others same place early alsoEarly
    rw [(twin.after_opponent others).2, same, show played = _ from moves,
      Opponent.moves_getElem? early, Opponent.moves_getElem? alsoEarly]

/-- One game fails when it is to be closed, one has no more input: the opponent moves on in both,
but not for the move read between. -/
theorem opponent_consulted_unclosed :
    let script : Script := [.bytes [97, 10], .fault ⟨.timedOut, none⟩, .bytes [98, 10, 99, 10]]
    let opponent : Opponent := .scripted ⟨[.rock, .paper], 0, by decide⟩
    let session : Session := ⟨.standard, opponent, script, ⟨none, none, none, 0, []⟩, []⟩
    let narrow : Device := ⟨some 1, some ⟨150, none, rfl⟩, none, 0, []⟩
    let twin : Session := ⟨.standard, opponent, [.bytes [98]], narrow, []⟩
    let steps : List Step := [.run, .readMove, .run]
    session.chosen steps = [.rock, .scissors] ∧
      (session.after steps).opponent = opponent.advance 2 ∧
      (session.reports steps).flatMap Report.played = [.rock, .paper] ∧
      steps[2]? = some .run ∧
      (∃ written, ((session.after [.run, .readMove]).step .run).1.Tells .standard
        ⟨.scissors, .paper, .win⟩ written) ∧
      ((twin.reports [.run]).flatMap Report.played)[0]? = some .rock := by
  intro script opponent session narrow twin steps
  have chosen : session.chosen steps = [.rock, .scissors] := by decide +kernel
  have before : session.chosen (steps.take 2) = [.rock] := by decide +kernel
  have choice : (session.after (steps.take 2)).choice? .run = some .scissors := by decide +kernel
  have met : 0 < (twin.chosen [.run]).length := by decide +kernel
  obtain ⟨advanced, played, each, twins⟩ := opponent_consulted session steps
  have last := each 2 .run rfl
  have first := twins twin [.run] rfl 0
  rw [chosen] at advanced played last first
  simp only [choice, before] at last
  obtain ⟨other, second, _, _, tells⟩ := last
  have paper : Move.paper = other := Option.some.inj second
  subst paper
  rw [played] at first
  exact ⟨chosen, advanced, played, rfl, ⟨_, tells⟩, first (by decide) met⟩

end Session

end Roshambo
