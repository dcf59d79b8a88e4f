import Roshambo.Game

/-! # Actions composed of the operations of a console

Everything that is done on a console is put together from a few operations: printing, flushing,
reading a line, adding to the log, and ending where the input is closed. `Composed` says so of an
action, and an induction over it proves of all stages of a game at once what each operation does and
what survives putting two of them in sequence. Asking for a move has no bound on its repetitions; on
a given input it agrees with the same question asked a sufficient number of times
(`readMove_eq_within`).
-/

namespace Roshambo

namespace Action

/-- The actions put together from the operations of a console; a repetition without a bound is on
each input one of its bounded stages. -/
inductive Composed : {α : Type} → Action α → Prop
  | pure {α : Type} (value : α) : Composed (pure value : Action α)
  | close {α : Type} : Composed (fail .inputClosed : Action α)
  | remark (entries : List LogEntry) : Composed (remark entries)
  | print (text : String) : Composed (print text)
  | flush : Composed flush
  | readLine : Composed readLine
  | bind {α β : Type} {first : Action α} {next : α → Action β} (head : Composed first)
      (tail : ∀ value, Composed (next value)) : Composed (first >>= next)
  | limit {α : Type} {whole : Action α} (stage : Nat → Action α) (stages : ∀ n, Composed (stage n))
      (agree : ∀ n console, console.input.byteCount < n → whole console = stage n console) :
      Composed whole

theorem composed_welcome (settings : Settings) : Composed (welcome settings) := .print _

theorem composed_ask (prompt : String) : Composed (ask prompt) :=
  .bind (.print prompt) fun _ => .bind .flush fun _ => .readLine

theorem composed_judge (settings : Settings) (line : List UInt8) :
    Composed (judge settings line) := by
  unfold judge
  split
  · exact .close
  split
  · exact .bind (.remark _) fun _ => .pure _
  · exact .bind (.remark _) fun _ => .bind (.print _) fun _ => .pure _

theorem composed_attempt (settings : Settings) : Composed (attempt settings) :=
  .bind (composed_ask _) fun line => composed_judge settings line

/-- A question that picks no move is asked again. -/
theorem readMove_eq_bind (settings : Settings) :
    readMove settings = (do
      match ← attempt settings with
      | some move => return move
      | none => readMove settings) := by
  funext console
  rw [readMove, bind_apply]
  rcases attempt settings console with ⟨result, after⟩
  cases result with
  | error error => rfl
  | ok choice => cases choice <;> rfl

def readMoveWithin (settings : Settings) : Nat → Action Move
  | 0 => fail .inputClosed
  | count + 1 => do
    match ← attempt settings with
    | some move => return move
    | none => readMoveWithin settings count

/-- One time more than there are bytes is enough, since every rejected line takes a byte. -/
theorem readMove_eq_within (settings : Settings) (count : Nat) (console : Console)
    (enough : console.input.byteCount < count) :
    readMove settings console = readMoveWithin settings count console := by
  induction count generalizing console with
  | zero => contradiction
  | succ count ih =>
    rw [readMove_eq_bind, readMoveWithin, bind_apply, bind_apply]
    rcases tried : attempt settings console with ⟨result, after⟩
    cases result with
    | error error => rfl
    | ok choice =>
      cases choice with
      | some move => rfl
      | none =>
        have less := attempt_none_bytes_lt tried
        exact ih after (by omega)

private theorem composed_readMoveWithin (settings : Settings) (count : Nat) :
    Composed (readMoveWithin settings count) := by
  induction count with
  | zero => exact .close
  | succ count ih =>
    apply Composed.bind (composed_attempt settings)
    intro choice
    cases choice with
    | some move => exact .pure move
    | none => exact ih

theorem composed_readMove (settings : Settings) : Composed (readMove settings) :=
  .limit (readMoveWithin settings) (composed_readMoveWithin settings)
    (readMove_eq_within settings)

theorem composed_announce (settings : Settings) (round : Round) :
    Composed (announce settings round) := .print _

theorem composed_waitForClose (settings : Settings) : Composed (waitForClose settings) := by
  apply Composed.bind (composed_ask _)
  intro line
  split
  · exact .remark _
  · exact .pure _

end Action

namespace Game

open Roshambo.Action

/-- A whole game against an opponent, for a player who may pick no move: the opponent's part in it
is its next move. -/
def play (settings : Settings) (opponent : Opponent) : Action Round := do
  let player ← choose settings
  remark (opponent.remarks opponent.play.1)
  conclude settings (Round.ofMoves player opponent.play.1)

/-- The opponent after a game on a console: it has played once if a move was picked. -/
def opponentAfter (settings : Settings) (opponent : Opponent) (console : Console) : Opponent :=
  match (choose settings console).1 with
  | .ok _ => opponent.play.2
  | .error _ => opponent

theorem run_eq (settings : Settings) (opponent : Opponent) (console : Console) :
    run settings opponent console =
      ((play settings opponent console).1, opponentAfter settings opponent console,
        (play settings opponent console).2) := by
  rw [run, play, opponentAfter, bind_apply]
  rcases choose settings console with ⟨result, after⟩
  cases result <;> rfl

theorem composed_choose (settings : Settings) : Composed (choose settings) :=
  .bind (composed_welcome settings) fun _ => composed_readMove settings

theorem composed_conclude (settings : Settings) (round : Round) :
    Composed (conclude settings round) :=
  .bind (.remark _) fun _ => .bind (composed_announce settings round) fun _ =>
    .bind (composed_waitForClose settings) fun _ => .pure round

theorem composed_play (settings : Settings) (opponent : Opponent) :
    Composed (play settings opponent) :=
  .bind (composed_choose settings) fun _ => .bind (.remark _) fun _ => composed_conclude settings _

end Game

end Roshambo
