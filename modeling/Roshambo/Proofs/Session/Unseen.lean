import Roshambo.Proofs.Session.Steps

/-! # Differences that no session shows

Two consoles may differ in a way that none of the operations of a console can see. Then no action
that is put together from them sees it either (`Composed.respects`), and two sessions on such
consoles go the same way: every step has the same report on both, and what differed before it
differs in the same way behind it (`Twins.step`, `Twins.run`).
-/

namespace Roshambo

namespace Action

variable {α β : Type} {related : Console → Console → Prop}

/-- An action gives the same on related consoles and leaves them related. -/
def Respects (related : Console → Console → Prop) (action : Action α) : Prop :=
  ∀ ⦃first second : Console⦄, related first second →
    (action first).1 = (action second).1 ∧ related (action first).2 (action second).2

/-- A difference between consoles that no operation sees. -/
structure Unseen (related : Console → Console → Prop) : Prop where
  print : ∀ text, (print text).Respects related
  flush : flush.Respects related
  readLine : readLine.Respects related
  remark : ∀ entries, (remark entries).Respects related

theorem Respects.bind {first : Action α} {next : α → Action β} (head : first.Respects related)
    (tail : ∀ value, (next value).Respects related) : (first >>= next).Respects related := by
  intro left right relation
  obtain ⟨same, still⟩ := head relation
  rw [bind_apply, bind_apply]
  rcases ended : first left with ⟨result, after⟩
  rcases other : first right with ⟨outcome, behind⟩
  rw [ended, other] at same still
  cases same
  cases result with
  | ok value => exact tail value still
  | error error => exact ⟨rfl, still⟩

/-- What no operation sees is seen by no composed action. -/
theorem Composed.respects (unseen : Unseen related) {action : Action α}
    (composed : Composed action) : action.Respects related := by
  induction composed with
  | pure value => exact fun _ _ relation => ⟨rfl, relation⟩
  | close => exact fun _ _ relation => ⟨rfl, relation⟩
  | remark entries => exact unseen.remark entries
  | print text => exact unseen.print text
  | flush => exact unseen.flush
  | readLine => exact unseen.readLine
  | bind _ _ head tail => exact head.bind tail
  | limit stage _ agree ih =>
    intro first second relation
    have enough := Nat.lt_succ_of_le (Nat.le_max_left first.input.byteCount second.input.byteCount)
    have still := Nat.lt_succ_of_le (Nat.le_max_right first.input.byteCount second.input.byteCount)
    rw [agree _ first enough, agree _ second still]
    exact ih _ relation

end Action

namespace Session

variable {related : Console → Console → Prop} {first second : Session}

/-- A difference between consoles that no operation sees and no report shows. -/
structure Hidden (related : Console → Console → Prop) : Prop extends Action.Unseen related where
  cleared : ∀ {first second : Console}, related first second →
    related { first with device := first.device.cleared, log := [] }
      { second with device := second.device.cleared, log := [] }
  byteCount : ∀ {first second : Console}, related first second →
    first.input.byteCount = second.input.byteCount
  output : ∀ {first second : Console}, related first second →
    first.device.output = second.device.output
  flushes : ∀ {first second : Console}, related first second →
    first.device.flushes = second.device.flushes
  log : ∀ {first second : Console}, related first second → first.log = second.log

/-- Sessions that differ in their consoles only, and there in the given way. -/
structure Twins (related : Console → Console → Prop) (first second : Session) : Prop where
  settings : first.settings = second.settings
  opponent : first.opponent = second.opponent
  console : related first.console second.console

theorem Twins.cleared (twins : Twins related first second) (hidden : Hidden related) :
    Twins related first.cleared second.cleared :=
  ⟨twins.settings, twins.opponent, hidden.cleared twins.console⟩

theorem Twins.act (twins : Twins related first second) (hidden : Hidden related) (next : Step) :
    (first.act next).1 = (second.act next).1 ∧ related (first.act next).2 (second.act next).2 := by
  rw [Session.act, Session.act, twins.settings, twins.opponent]
  exact (next.composed_action second.settings second.opponent).respects hidden.toUnseen
    twins.console

theorem Twins.opponentAfter (twins : Twins related first second) (hidden : Hidden related)
    (next : Step) : first.opponentAfter next = second.opponentAfter next := by
  cases next with
  | run =>
    have chosen :=
      (Game.composed_choose second.settings).respects hidden.toUnseen twins.console
    simp only [Session.opponentAfter, Game.opponentAfter, twins.settings, twins.opponent, chosen.1]
  | _ => exact twins.opponent

/-- A step has the same report on both sessions, and they differ in the same way behind it. -/
theorem Twins.step (twins : Twins related first second) (hidden : Hidden related) (next : Step) :
    (first.step next).1 = (second.step next).1 ∧
      Twins related (first.step next).2 (second.step next).2 := by
  obtain ⟨result, console⟩ := (twins.cleared hidden).act hidden next
  rw [step_eq, step_eq, result, (twins.cleared hidden).opponentAfter hidden,
    hidden.output console, hidden.log console, hidden.byteCount console, hidden.flushes console,
    hidden.byteCount twins.console, hidden.flushes twins.console]
  exact ⟨rfl, twins.settings, rfl, console⟩

/-- All steps have the same reports on both sessions, and behind each step the sessions look alike
to whoever does not see the difference. -/
theorem Twins.run {View : Type} {view : Session → View} (hidden : Hidden related)
    (blind : ∀ {first second : Session}, Twins related first second → view first = view second)
    (twins : Twins related first second) (steps : List Step) :
    (first.run steps).map (fun (report, after) => (report, view after)) =
      (second.run steps).map (fun (report, after) => (report, view after)) := by
  induction steps generalizing first second with
  | nil => rfl
  | cons next steps ih =>
    obtain ⟨report, still⟩ := twins.step hidden next
    simp only [Session.run, List.map_cons, report, blind still, ih still]

end Session

end Roshambo
