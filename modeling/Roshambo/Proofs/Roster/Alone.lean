import Roshambo.Roster

/-! # Opponents who play by turns

A turn moves on the opponent of one seat and leaves the others as they are (`get_moved_other`), so
what a seat plays depends on its own opponent and on how often it plays, and on nothing else. The
main statement is `play_as_alone`: in every order of turns each seat makes the moves that its
opponent makes alone, and draws as many words for them, whoever sits elsewhere and whenever they
play.
-/

namespace Roshambo

namespace Roster

variable {size : Nat}

/-- The order of turns in which each entry stands for a number of turns of one seat. -/
def spread (order : List (Fin size × Nat)) : List (Fin size) :=
  order.flatMap fun entry => List.replicate entry.2 entry.1

/-- How many turns the entries of a seat stand for, all together. -/
def turnsOf (seat : Fin size) : List (Fin size × Nat) → Nat
  | [] => 0
  | (next, count) :: order => if next = seat then count + turnsOf seat order else turnsOf seat order

theorem count_spread (seat : Fin size) (order : List (Fin size × Nat)) :
    (spread order).count seat = turnsOf seat order := by
  induction order with
  | nil => rfl
  | cons entry order ih =>
    have counted : (spread (entry :: order)).count seat =
        (List.replicate entry.2 entry.1).count seat + (spread order).count seat :=
      List.count_append
    rw [counted, ih, List.count_replicate]
    by_cases own : entry.1 = seat
    · simp [turnsOf, own]
    · simp [turnsOf, own]

def moved (roster : Roster size) (seat : Fin size) : Roster size :=
  roster.set seat (roster.get seat).play.2 seat.isLt

private theorem get_moved_own (roster : Roster size) (seat : Fin size) :
    (roster.moved seat).get seat = (roster.get seat).play.2 :=
  Vector.getElem_set_self seat.isLt

theorem get_moved_other (roster : Roster size) {next seat : Fin size}
    (other : next ≠ seat) :
    (roster.moved next).get seat = roster.get seat :=
  Vector.getElem_set_ne next.isLt seat.isLt fun same => other (Fin.ext same)

private theorem play_cons (seat : Fin size) (order : List (Fin size)) (roster : Roster size) :
    play (seat :: order) roster =
      (⟨seat, (roster.get seat).play.1⟩ :: (play order (roster.moved seat)).1,
        (play order (roster.moved seat)).2) := rfl

private theorem movesOf_cons_own (seat : Fin size) (move : Move) (turns : List (Turn size)) :
    movesOf seat (⟨seat, move⟩ :: turns) = move :: movesOf seat turns := by
  simp [movesOf]

private theorem movesOf_cons_other {seat next : Fin size} (other : next ≠ seat) (move : Move)
    (turns : List (Turn size)) : movesOf seat (⟨next, move⟩ :: turns) = movesOf seat turns := by
  simp [movesOf, other]

theorem seats_play (order : List (Fin size)) (roster : Roster size) :
    (play order roster).1.map Turn.seat = order := by
  induction order generalizing roster with
  | nil => rfl
  | cons seat order ih => exact congrArg (seat :: ·) (ih _)

/-- In any order of turns a seat makes the first moves of its opponent, one for each of its turns,
and leaves it as if alone. -/
theorem play_seat (seat : Fin size) (order : List (Fin size)) (roster : Roster size) :
    movesOf seat (play order roster).1 = (roster.get seat).moves (order.count seat) ∧
      (play order roster).2.get seat = (roster.get seat).advance (order.count seat) := by
  induction order generalizing roster with
  | nil => exact ⟨rfl, rfl⟩
  | cons next order ih =>
    obtain ⟨made, left⟩ := ih (roster.moved next)
    rw [play_cons]
    by_cases own : next = seat
    · subst own
      rw [get_moved_own] at made left
      rw [List.count_cons_self]
      constructor
      · rw [movesOf_cons_own, made]
        rfl
      · exact left
    · rw [get_moved_other roster own] at made left
      rw [List.count_cons_of_ne own]
      constructor
      · rw [movesOf_cons_other own, made]
      · exact left

/-- Whatever the order of turns and whoever else plays, each seat makes the moves that its opponent
would make alone, and draws as many words. -/
theorem play_as_alone (roster : Roster size) (order : List (Fin size × Nat)) (seat : Fin size) :
    (play (spread order) roster).1.map Turn.seat = spread order ∧
      movesOf seat (play (spread order) roster).1 =
        (roster.get seat).moves (turnsOf seat order) ∧
      ((play (spread order) roster).2.get seat).wordsDrawn? =
        ((roster.get seat).advance (turnsOf seat order)).wordsDrawn? ∧
      ∀ {others : Nat} (changed : Roster others) (reorder : List (Fin others × Nat))
        (place : Fin others), changed.get place = roster.get seat →
        turnsOf place reorder = turnsOf seat order →
        movesOf place (play (spread reorder) changed).1 =
            movesOf seat (play (spread order) roster).1 ∧
          ((play (spread reorder) changed).2.get place).wordsDrawn? =
            ((play (spread order) roster).2.get seat).wordsDrawn? := by
  obtain ⟨made, left⟩ := play_seat seat (spread order) roster
  rw [count_spread] at made left
  refine ⟨seats_play _ _, made, by rw [left], ?_⟩
  intro others changed reorder place unchanged equal
  obtain ⟨madeThere, leftThere⟩ := play_seat place (spread reorder) changed
  rw [count_spread, unchanged, equal] at madeThere leftThere
  constructor
  · rw [madeThere, made]
  · rw [leftThere, left]

/-- Three opponents by turns, and the first of them without the others: its moves are the same, and
each is drawn from two words. -/
theorem play_as_alone_without_others :
    let drawing : Opponent := .random (.listed ⟨[0x55555555, 7], 0, by decide⟩)
    let three : Roster 3 := #v[drawing, .scripted ⟨[.paper, .rock], 0, by decide⟩, .seeded 42]
    let order : List (Fin 3 × Nat) := [(0, 1), (2, 1), (0, 2), (1, 3)]
    turnsOf 0 [((0 : Fin 1), 3)] = turnsOf 0 order ∧
      movesOf 0 (play (spread [((0 : Fin 1), 3)]) #v[drawing]).1 =
        movesOf 0 (play (spread order) three).1 ∧
      ((play (spread order) three).2.get 0).wordsDrawn? = some 6 := by
  intro drawing three order
  have equal : turnsOf 0 [((0 : Fin 1), 3)] = turnsOf 0 order := by decide
  obtain ⟨_, _, drawn, same⟩ := play_as_alone three order 0
  obtain ⟨made, _⟩ := same #v[drawing] [(0, 3)] 0 rfl equal
  have six : (drawing.advance (turnsOf 0 order)).wordsDrawn? = some 6 := by decide +kernel
  exact ⟨equal, made, drawn.trans six⟩

end Roster

end Roshambo
