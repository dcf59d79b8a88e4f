import Roshambo.Proofs.Game.Stopping
import Roshambo.Proofs.Session.Steps

/-! # Prompts that are not flushed

A step that asks for lines writes a number of prompts, flushes each of them and reads a line for it.
If one of these flushes fails, the step ends there, whatever the fault: the prompts up to that one
have been written, a line has been read for each of them but the last, and the opponent has moved on
only if the last is the prompt that closes a whole game. Any other flush that is to fail makes no
difference to the step (`step_unflushed`).
-/

namespace Roshambo

def Session.planned (session : Session) (plan : Option (Nat × Fault)) : Session :=
  { session with console := session.console.planned plan }

open Roshambo.Action Roshambo.Game

/-- What a question for a move writes up to each of its prompts in turn, with what was written
before it in front of the first. -/
def questions (settings : Settings) (lead : String) (count : Nat) : List String :=
  (lead ++ settings.prompt) :: List.replicate count (settings.complaint ++ "\n" ++ settings.prompt)

theorem length_questions (settings : Settings) (lead : String) (count : Nat) :
    (questions settings lead count).length = count + 1 := by
  rw [questions, List.length_cons, List.length_replicate]

theorem take_questions (settings : Settings) (lead : String) {asked count : Nat}
    (within : asked ≤ count) :
    (questions settings lead count).take (asked + 1) = questions settings lead asked := by
  rw [questions, List.take_succ_cons, List.take_replicate, Nat.min_eq_left within]
  rfl

theorem join_questions (settings : Settings) (lead : String) (count : Nat) :
    String.join (questions settings lead count) = lead ++ dialogue settings count := by
  induction count generalizing lead with
  | zero => rw [dialogue_zero]; simp [questions]
  | succ count ih =>
    have further := ih (lead ++ (settings.prompt ++ settings.complaint ++ "\n"))
    rw [dialogue_succ, ← String.append_assoc, ← further]
    simp only [questions, List.replicate_succ, String.join_cons, String.append_assoc]

/-- What a step writes up to each of its prompts in turn: the prompts for a move, and the prompt for
closing where the step comes to it. -/
inductive Prompts (settings : Settings) (opponent : Opponent) (input : Script) :
    Step → List String → List String → Prop
  | readMove {count : Nat} {verdict : Except GameError Move}
      (rejected : ∀ place < count, verdict? (input.line place) = none)
      (settled : verdict? (input.line count) = some verdict) :
      Prompts settings opponent input .readMove (questions settings "" count) []
  | waitForClose : Prompts settings opponent input .waitForClose [] [settings.closePrompt]
  | unchosen {count : Nat} {error : GameError}
      (rejected : ∀ place < count, verdict? (input.line place) = none)
      (settled : verdict? (input.line count) = some (.error error)) :
      Prompts settings opponent input .run (questions settings (greeting settings) count) []
  | chosen {count : Nat} {player : Move}
      (rejected : ∀ place < count, verdict? (input.line place) = none)
      (settled : verdict? (input.line count) = some (.ok player)) :
      Prompts settings opponent input .run (questions settings (greeting settings) count)
        [farewell settings (Round.ofMoves player opponent.play.1)]

private theorem exists_prompts (settings : Settings) (opponent : Opponent) (input : Script)
    {next : Step} (prompting : next ∈ [.readMove, .waitForClose, .run]) :
    ∃ choices close, Prompts settings opponent input next choices close := by
  obtain ⟨count, verdict, rejected, settled⟩ := exists_verdict input
  simp only [List.mem_cons, List.not_mem_nil, or_false] at prompting
  rcases prompting with rfl | rfl | rfl
  · exact ⟨_, _, .readMove rejected settled⟩
  · exact ⟨_, _, .waitForClose⟩
  · cases verdict with
    | error error => exact ⟨_, _, .unchosen rejected settled⟩
    | ok player => exact ⟨_, _, .chosen rejected settled⟩

theorem Action.Yields.answering {α : Type} {action : Action α} {console : Console}
    {result : Except GameError α} {text : String} {flushes lines : Nat}
    (yields : action.Yields console result text flushes lines) (answer : α → Answer) :
    (Step.answering action answer).Yields console (result.map answer) text flushes lines := by
  constructor
  · rw [Step.answering_apply, yields.result]
  · rw [Step.answering_apply]
    exact yields.did

namespace Prompts

variable {settings : Settings} {opponent : Opponent} {console : Console} {next : Step}
variable {choices close : List String}

/-- Without a failing flush all prompts are written, and a line is read for each of them. -/
theorem yields (prompts : Prompts settings opponent console.input next choices close)
    (reliable : console.device.IsReliable) :
    ∃ result, (next.action settings opponent).Yields console result
      (String.join (choices ++ close)) (choices ++ close).length (choices ++ close).length := by
  cases prompts with
  | @readMove count verdict rejected settled =>
    have asked := (readMove_yields settings reliable rejected settled).answering .move
    rw [List.append_nil, length_questions, join_questions, String.empty_append]
    exact ⟨_, asked⟩
  | waitForClose =>
    have closed := (waitForClose_yields settings reliable).answering fun _ => .done
    rw [List.nil_append, String.join_cons, String.join_nil, String.append_empty]
    exact ⟨_, closed⟩
  | @unchosen count error rejected settled =>
    have chosen := choose_yields settings reliable rejected settled
    rw [List.append_nil, length_questions, join_questions]
    exact ⟨_, Yields.answering chosen.bind_error .round⟩
  | @chosen count player rejected settled =>
    have played := (play_yields settings opponent reliable rejected settled).answering .round
    rw [List.length_append, length_questions, String.join_append, join_questions, String.join_cons,
      String.join_nil, String.append_empty]
    exact ⟨_, played⟩

/-- Where the flush of a prompt is to fail, the step stops behind that prompt. -/
theorem stops (prompts : Prompts settings opponent console.input next choices close)
    (never : console.device.NeverFails) (fault : Fault) {made : Nat}
    (within : made < (choices ++ close).length) :
    (next.action settings opponent).Stops console fault
      (String.join ((choices ++ close).take (made + 1))) (made + 1) made := by
  cases prompts with
  | @readMove count verdict rejected settled =>
    rw [List.append_nil, length_questions] at within
    have some : made ≤ count := Nat.le_of_lt_succ within
    have asked := readMove_stops settings never fault
      fun place before => rejected place (Nat.lt_of_lt_of_le before some)
    rw [List.append_nil, take_questions settings "" some, join_questions, String.empty_append]
    exact asked.bind _
  | waitForClose =>
    have none : made = 0 := Nat.lt_one_iff.mp within
    have closed := waitForClose_stops settings never fault
    rw [none, List.nil_append, List.take_succ_cons, List.take_zero, String.join_cons,
      String.join_nil, String.append_empty]
    exact closed.bind _
  | @unchosen count error rejected settled =>
    rw [List.append_nil, length_questions] at within
    have some : made ≤ count := Nat.le_of_lt_succ within
    have stopped := choose_stops settings never fault
      fun place before => rejected place (Nat.lt_of_lt_of_le before some)
    rw [List.append_nil, take_questions settings _ some, join_questions]
    exact (stopped.bind _).bind _
  | @chosen count player rejected settled =>
    by_cases some : made ≤ count
    · have stopped := choose_stops settings never fault
        fun place before => rejected place (Nat.lt_of_lt_of_le before some)
      rw [List.take_append_of_le_length (by rw [length_questions]; omega),
        take_questions settings _ some, join_questions]
      exact (stopped.bind _).bind _
    · rw [List.length_append, length_questions, List.length_singleton] at within
      have all : made = count + 1 := by omega
      have played := play_stops settings opponent never fault rejected settled
      rw [all, List.take_of_length_le (by rw [List.length_append, length_questions]; rfl),
        String.join_append, join_questions, String.join_cons, String.join_nil,
        String.append_empty]
      exact played.bind _

/-- A game that stops at a prompt for a move leaves the opponent as it is. -/
theorem opponentAfter_of_asked (opponent : Opponent) (never : console.device.NeverFails)
    (fault : Fault) {asked : Nat}
    (rejected : ∀ place < asked, verdict? (console.input.line place) = none) :
    Game.opponentAfter settings opponent
      (console.planned (some (console.device.flushes + (asked + 1), fault))) = opponent := by
  have stopped := choose_stops settings never fault rejected
  rw [Game.opponentAfter, stopped.yields.result]

private theorem opponentAfter_of_chosen (opponent : Opponent) (never : console.device.NeverFails)
    (fault : Fault) {count : Nat} {player : Move}
    (rejected : ∀ place < count, verdict? (console.input.line place) = none)
    (settled : verdict? (console.input.line count) = some (.ok player)) :
    Game.opponentAfter settings opponent
      (console.planned (some (console.device.flushes + (count + 2), fault))) = opponent.play.2 := by
  have chosen := choose_yields settings never.reliable rejected settled
  have early := (composed_choose settings).overlooks console
    (console.device.flushes + (count + 2)) fault never (by rw [chosen.did.flushes]; omega)
  rw [Game.opponentAfter, early, chosen.result]

/-- Where the flush of a prompt fails, the opponent moves on only in a game that has come to the
prompt for closing. -/
private theorem opponentAfter_stopped {session : Session}
    (prompts : Prompts session.settings session.opponent session.console.input next choices close)
    (never : session.console.device.NeverFails) (fault : Fault) {made : Nat}
    (within : made < (choices ++ close).length) :
    (session.planned (some (session.console.device.flushes + (made + 1), fault))).opponentAfter next
      = if next = .run ∧ choices.length < made + 1 then session.opponent.play.2
        else session.opponent := by
  cases prompts with
  | readMove | waitForClose => exact (if_neg fun both => by cases both.1).symm
  | @unchosen count error rejected settled =>
    rw [List.append_nil, length_questions] at within
    rw [length_questions, if_neg (by omega)]
    exact opponentAfter_of_asked _ never fault fun place before => rejected place (by omega)
  | @chosen count player rejected settled =>
    rw [List.length_append, length_questions, List.length_singleton] at within
    rw [length_questions]
    by_cases some : made ≤ count
    · rw [if_neg (by omega)]
      exact opponentAfter_of_asked _ never fault fun place before => rejected place (by omega)
    · have all : made = count + 1 := by omega
      rw [if_pos ⟨rfl, by omega⟩, all]
      exact opponentAfter_of_chosen _ never fault rejected settled

end Prompts

namespace Session

variable {session : Session} {next : Step} {place : Nat} {fault : Fault}

private theorem opponentAfter_overlooks (settings : Settings) (opponent : Opponent)
    {console : Console} (never : console.device.NeverFails)
    (apart : place ≤ console.device.flushes ∨
      (play settings opponent console).2.device.flushes < place) :
    Game.opponentAfter settings opponent (console.planned (some (place, fault))) =
      Game.opponentAfter settings opponent console := by
  have grown := (composed_choose settings).flushes_le (fun player =>
    .bind (.remark (opponent.remarks opponent.play.1)) fun _ =>
      composed_conclude settings (Round.ofMoves player opponent.play.1)) never
  have before : (choose settings console).2.device.flushes ≤
      (play settings opponent console).2.device.flushes := grown
  have early := (composed_choose settings).overlooks console place fault never (by omega)
  rw [Game.opponentAfter, Game.opponentAfter, early]

/-- A step that does not come to the flush that is to fail goes as without the plan. -/
theorem step_overlooks (never : session.console.device.NeverFails)
    (apart : place ≤ session.console.device.flushes ∨
      (session.cleared.act next).2.device.flushes < place) :
    (session.planned (some (place, fault))).step next =
      ((session.step next).1, (session.step next).2.planned (some (place, fault))) := by
  have neverCleared : session.cleared.console.device.NeverFails := never.cleared
  have acted : (session.planned (some (place, fault))).cleared.act next =
      ((session.cleared.act next).1,
        (session.cleared.act next).2.planned (some (place, fault))) :=
    (next.composed_action session.settings session.opponent).overlooks session.cleared.console
      place fault neverCleared apart
  have opponent : (session.planned (some (place, fault))).cleared.opponentAfter next =
      session.cleared.opponentAfter next := by
    cases next with
    | run =>
      rw [act, Step.action, Step.answering_apply] at apart
      exact opponentAfter_overlooks _ _ neverCleared apart
    | _ => rfl
  rw [step_eq, step_eq, acted, opponent]
  rfl

/-- A step that comes to the flush that fails stops behind the prompt that was to be flushed. -/
theorem step_stopped {choices close : List String} (never : session.console.device.NeverFails)
    (prompts : Prompts session.settings session.opponent session.console.input next choices close)
    {made : Nat} (within : made < (choices ++ close).length)
    (due : place = session.console.device.flushes + (made + 1)) :
    let stopped := (session.planned (some (place, fault))).step next
    stopped.1.result = .error (.io fault) ∧
      stopped.1.output = Text.encode (String.join ((choices ++ close).take (made + 1))) ∧
      stopped.1.flushes = made + 1 ∧
      stopped.2.console.input = session.console.input.after made ∧
      stopped.2.opponent = if next = .run ∧ choices.length < made + 1 then session.opponent.play.2
        else session.opponent := by
  intro stopped
  have neverCleared : session.cleared.console.device.NeverFails := never.cleared
  have stops := @Prompts.stops _ _ session.cleared.console _ _ _ prompts neverCleared fault _ within
  have did := did_planned.mp stops.yields.did
  have opponent := @Prompts.opponentAfter_stopped _ _ _ session.cleared prompts neverCleared fault
    _ within
  have whole : stopped = _ := step_eq (session.planned (some (place, fault))) next
  rw [whole, due]
  exact ⟨stops.yields.result, did.output, Nat.sub_eq_of_eq_add' did.flushes, did.input, opponent⟩

/-- No line is read behind a prompt that was not flushed: a step ends with the fault of that flush,
right behind the prompt. -/
theorem step_unflushed (session : Session) (next : Step) {place : Nat} {fault : Fault}
    (prompting : next ∈ [.readMove, .waitForClose, .run]) (free : session.console.device.IsFree)
    (planned : session.console.device.flushFault = some (place, fault)) :
    let made := session.console.device.flushes
    let smooth := (session.planned none).step next
    ∃ choices close,
      Prompts session.settings session.opponent session.console.input next choices close ∧
      smooth.1.output = Text.encode (String.join (choices ++ close)) ∧
      smooth.1.flushes = (choices ++ close).length ∧
      smooth.2.console.input = session.console.input.after smooth.1.flushes ∧
      (made < place ∧ place ≤ made + smooth.1.flushes →
        (session.step next).1.result = .error (.io fault) ∧
        (session.step next).1.output =
          Text.encode (String.join ((choices ++ close).take (place - made))) ∧
        (session.step next).1.flushes = place - made ∧
        -- A line has been read for each prompt but the one of which the flush failed.
        (session.step next).2.console.input = session.console.input.after (place - made - 1) ∧
        (session.step next).2.opponent =
          if next = .run ∧ choices.length < place - made then session.opponent.play.2
          else session.opponent) ∧
      (place ≤ made ∨ made + smooth.1.flushes < place →
        session.step next = (smooth.1, smooth.2.planned (some (place, fault)))) := by
  intro made smooth
  have never : (session.planned none).console.device.NeverFails :=
    ⟨⟨free.unlimited, free.moves⟩, rfl⟩
  have same : (session.planned none).planned (some (place, fault)) = session := by
    rw [← planned]
    rfl
  obtain ⟨choices, close, prompts⟩ :=
    exists_prompts session.settings session.opponent session.console.input prompting
  obtain ⟨result, yields⟩ := @Prompts.yields _ _ (session.planned none).cleared.console _ _ _
    prompts never.cleared.reliable
  have whole : smooth = _ := step_eq (session.planned none) next
  have flushes : smooth.1.flushes = (choices ++ close).length := by
    rw [whole]
    exact Nat.sub_eq_of_eq_add' yields.did.flushes
  refine ⟨choices, close, prompts, ?_, flushes, ?_, ?_, ?_⟩
  · rw [whole]
    exact yields.did.output
  · rw [flushes, whole]
    exact yields.did.input
  · rintro ⟨early, late⟩
    obtain ⟨before, due⟩ : ∃ before, place - made = before + 1 := ⟨place - made - 1, by omega⟩
    have stopped := @step_stopped (session.planned none) next place fault _ _ never prompts before
      (by omega) (by change place = made + (before + 1); omega)
    rw [due]
    rwa [same] at stopped
  · intro apart
    have overlooked := @step_overlooks (session.planned none) next place fault never (by
      rw [show ((session.planned none).cleared.act next).2.device.flushes = _ from
        yields.did.flushes, ← flushes]
      exact apart)
    rwa [same] at overlooked

/-- Two lines that are rejected and a move, then the prompt for closing, of which the flush is
interrupted: three lines have been read, and the fourth is left. -/
theorem step_unflushed_closing :
    let device : Device := ⟨none, none, some (5, ⟨.interrupted, none⟩), 1, []⟩
    let session : Session :=
      ⟨.standard, .always .scissors, [.bytes [122, 10, 122, 10, 97, 10, 10]], device, []⟩
    device.IsFree ∧ (session.step .run).1.result = .error (.io ⟨.interrupted, none⟩) ∧
      (session.step .run).1.flushes = 4 ∧
      (session.step .run).1.output = ((session.planned none).step .run).1.output ∧
      (session.step .run).2.console.input = [.bytes [10]] := by
  intro device session
  have free : device.IsFree := ⟨rfl, by unfold Device.Moves; decide⟩
  obtain ⟨choices, close, _, output, flushes, _, stops, _⟩ :=
    step_unflushed session .run (by decide) free rfl
  have four : ((session.planned none).step .run).1.flushes = 4 := by decide +kernel
  have whole : (choices ++ close).take (5 - session.console.device.flushes) = choices ++ close :=
    List.take_of_length_le (Nat.le_of_eq (flushes.symm.trans four))
  obtain ⟨result, written, made, input, _⟩ := stops (by rw [four]; decide)
  rw [whole, ← output] at written
  exact ⟨free, result, made, written, input⟩

end Session

end Roshambo
