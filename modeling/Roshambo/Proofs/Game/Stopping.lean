import Roshambo.Proofs.Console.Flushes
import Roshambo.Proofs.Game.Transcript

/-! # Games that stop at a flush

Every prompt is flushed before a line is read for it. So where a flush fails the game stops right
behind the prompt that was to be flushed: what was written ends with it, and the lines that were
read are those of the prompts before it. `Stops` says so of an action and the number of its flush
that fails; the main statements are `readMove_stops` and, for the two kinds of prompts in a whole
game, `choose_stops` and `play_stops`.
-/

namespace Roshambo

theorem Device.NeverFails.reliable {device : Device} (never : device.NeverFails) :
    device.IsReliable :=
  ⟨never.toIsFree, fun place fault planned => by
    rw [never.unplanned] at planned
    cases planned⟩

/-- What was done to a console has nothing to do with what is planned. -/
theorem did_planned {before after : Console} {plan : Option (Nat × Fault)} {text : String}
    {flushes lines : Nat} :
    Did (before.planned plan) text flushes lines after ↔ Did before text flushes lines after :=
  ⟨fun did => ⟨did.output, did.flushes, did.input, did.reliable⟩,
    fun did => ⟨did.output, did.flushes, did.input, did.reliable⟩⟩

namespace Action

variable {α β : Type} {console : Console} {fault : Fault} {text more : String}
variable {flushes lines moreFlushes moreLines : Nat}

/-- An action ends at one of its flushes, if that is the flush that fails: with the fault, and with
what was written and read until then. -/
structure Stops (action : Action α) (console : Console) (fault : Fault) (text : String)
    (flushes lines : Nat) : Prop where
  made : 0 < flushes
  yields : action.Yields (console.planned (some (console.device.flushes + flushes, fault)))
    (.error (.io fault)) text flushes lines

theorem Stops.congr {action : Action α} (stops : action.Stops console fault text flushes lines)
    (same_text : text = more) (same_flushes : flushes = moreFlushes)
    (same_lines : lines = moreLines) :
    action.Stops console fault more moreFlushes moreLines := by
  subst same_text same_flushes same_lines
  exact stops

theorem Stops.bind {first : Action α} (stops : first.Stops console fault text flushes lines)
    (next : α → Action β) : (first >>= next).Stops console fault text flushes lines :=
  ⟨stops.made, stops.yields.bind_error⟩

/-- An action may stop behind another one that has not come to the flush that fails. -/
theorem Yields.bind_stops {first : Action α} {next : α → Action β} {value : α}
    (head : first.Yields console (.ok value) text flushes lines) (composed : Composed first)
    (never : console.device.NeverFails)
    (stops : (next value).Stops (first console).2 fault more moreFlushes moreLines) :
    (first >>= next).Stops console fault (text ++ more) (flushes + moreFlushes)
      (lines + moreLines) := by
  obtain ⟨made, tail⟩ := stops
  rw [head.did.flushes, Nat.add_assoc] at tail
  have early := composed.overlooks console (console.device.flushes + (flushes + moreFlushes)) fault
    never (by rw [head.did.flushes]; omega)
  refine ⟨Nat.add_pos_right _ made, ?_⟩
  generalize some (console.device.flushes + (flushes + moreFlushes), fault) = plan at tail early ⊢
  have whole : (first >>= next) (console.planned plan) =
      next value ((first console).2.planned plan) := by rw [bind_apply, early, head.result]
  constructor
  · rw [whole]
    exact tail.result
  · rw [whole]
    exact did_planned.mpr (head.did.trans (did_planned.mp tail.did))

private theorem flush_stops (never : console.device.NeverFails) (fault : Fault) :
    flush.Stops console fault "" 1 0 := by
  have fails : (console.device.planned (some (console.device.flushes + 1, fault))).flushResult =
      .error fault := if_pos rfl
  have whole : flush (console.planned (some (console.device.flushes + 1, fault))) =
      (.error (.io fault), { console with device :=
        (console.device.planned (some (console.device.flushes + 1, fault))).flushed }) := by
    simp only [flush, Console.planned, Device.flush_eq, fails]
    rfl
  refine ⟨Nat.one_pos, by rw [whole], ?_⟩
  rw [whole]
  refine ⟨(List.append_nil _).symm, rfl, rfl, ⟨⟨never.unlimited, never.moves⟩, ?_⟩⟩
  intro place other planned
  cases planned
  exact Nat.le_refl _

/-- A question stops behind its prompt, and no line is read for it. -/
theorem ask_stops (never : console.device.NeverFails) (fault : Fault) (prompt : String) :
    (ask prompt).Stops console fault prompt 1 0 := by
  have printed := yields_print never.reliable prompt
  have still := ((Composed.print prompt).spent never).1
  have stops := (flush_stops still fault).bind fun _ => readLine
  exact Stops.congr (printed.bind_stops (.print prompt) never stops) String.append_empty rfl rfl

private theorem attempt_stops (never : console.device.NeverFails) (fault : Fault)
    (settings : Settings) :
    (attempt settings).Stops console fault settings.prompt 1 0 :=
  (ask_stops never fault settings.prompt).bind _

/-- A question for a move may stop at each of its prompts, behind the lines that were rejected. -/
theorem readMove_stops (settings : Settings) (never : console.device.NeverFails) (fault : Fault)
    {count : Nat} (rejected : ∀ place < count, verdict? (console.input.line place) = none) :
    (readMove settings).Stops console fault (dialogue settings count) (count + 1) count := by
  induction count generalizing console with
  | zero =>
    rw [readMove_eq_bind, dialogue_zero]
    exact (attempt_stops never fault settings).bind _
  | succ count ih =>
    have tried := attempt_unsettled settings never.reliable (rejected 0 (Nat.succ_pos _))
    have composed := composed_attempt settings
    have later : ∀ place < count,
        verdict? ((attempt settings console).2.input.line place) = none := by
      intro place before
      rw [tried.did.input, ← Script.line_add]
      exact rejected (1 + place) (by omega)
    have stops := ih (composed.spent never).1 later
    rw [readMove_eq_bind, dialogue_succ]
    exact Stops.congr (tried.bind_stops composed never stops) rfl (by omega) (by omega)

theorem waitForClose_stops (settings : Settings) (never : console.device.NeverFails)
    (fault : Fault) : (waitForClose settings).Stops console fault settings.closePrompt 1 0 :=
  (ask_stops never fault settings.closePrompt).bind _

end Action

namespace Game

open Roshambo.Action

variable {console : Console} {count : Nat}

theorem choose_stops (settings : Settings) (never : console.device.NeverFails) (fault : Fault)
    (rejected : ∀ place < count, verdict? (console.input.line place) = none) :
    (choose settings).Stops console fault (greeting settings ++ dialogue settings count)
      (count + 1) count := by
  have greeted := yields_print never.reliable settings.banner
  have composed := composed_welcome settings
  have same : (welcome settings console).2.input = console.input := rfl
  rw [← same] at rejected
  have stops := readMove_stops settings (composed.spent never).1 fault rejected
  exact Stops.congr (greeted.bind_stops composed never stops) rfl (Nat.zero_add _)
    (Nat.zero_add _)

private theorem conclude_stops (settings : Settings) (round : Round)
    (never : console.device.NeverFails) (fault : Fault) :
    (conclude settings round).Stops console fault (farewell settings round) 1 0 := by
  have composed : Composed (remark [.finished round]) := .remark _
  have logged := yields_remark never.reliable [.finished round]
  have announced := yields_print logged.did.reliable (settings.announcement round)
  have stillLogged := (composed.spent never).1
  have still := ((composed_announce settings round).spent stillLogged).1
  have closing := (waitForClose_stops settings still fault).bind fun _ => pure round
  exact Stops.congr (logged.bind_stops composed never
    (announced.bind_stops (composed_announce settings round) stillLogged closing))
    String.empty_append rfl rfl

/-- A game in which a move is picked may also stop at the last prompt, behind the opponent's
move. -/
theorem play_stops (settings : Settings) (opponent : Opponent) {player : Move}
    (never : console.device.NeverFails) (fault : Fault)
    (rejected : ∀ place < count, verdict? (console.input.line place) = none)
    (settled : verdict? (console.input.line count) = some (.ok player)) :
    (play settings opponent).Stops console fault
      (greeting settings ++ dialogue settings count ++
        farewell settings (Round.ofMoves player opponent.play.1)) (count + 2) (count + 1) := by
  have chosen := choose_yields settings never.reliable rejected settled
  have noted := yields_remark chosen.did.reliable (opponent.remarks opponent.play.1)
  have composed : Composed (remark (opponent.remarks opponent.play.1)) := .remark _
  have stillChosen := ((composed_choose settings).spent never).1
  have still := (composed.spent stillChosen).1
  have concluding := conclude_stops settings (Round.ofMoves player opponent.play.1) still fault
  refine Stops.congr (chosen.bind_stops (composed_choose settings) never
    (noted.bind_stops composed stillChosen concluding)) ?_ rfl rfl
  rw [String.empty_append]

end Game

end Roshambo
