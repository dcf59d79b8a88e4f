import Mathlib.Data.Set.Card
import Mathlib.Order.Interval.Finset.Nat
import Roshambo.Proofs.Random.Blocks

/-! # A draw as a third of all pairs of words

The two words ahead of a generator make a number below 2⁶⁴, and the move drawn says in which third
of these numbers it is, as if both words were always read and multiplied out. One word is enough
for that but for two values of it (`play_scaled`). So the three moves share the pairs of words as
evenly as three can share 2⁶⁴ of them (`shares_even`).
-/

namespace Roshambo

namespace Random

/-- Which third of the numbers below 2⁶⁴ two words are in, counted from zero. -/
def third (first second : UInt32) : Nat := 3 * (first.toNat * 2 ^ 32 + second.toNat) / 2 ^ 64

theorem third_lt (first second : UInt32) : third first second < Move.all.length := by
  have first_bound := first.toNat_lt
  have second_bound := second.toNat_lt
  change _ < 3
  rw [third]
  omega

/-- The words behind which the next one could still decide the move. -/
def Unsettled (word : UInt32) : Prop := word = 0x55555555 ∨ word = 0xAAAAAAAA

instance (word : UInt32) : Decidable (Unsettled word) := inferInstanceAs (Decidable (_ ∨ _))

/-- How many words a draw takes that begins with a word. -/
def reach (first : UInt32) : Nat := if Unsettled first then 2 else 1

/-- Whether every step of a draw from two words has the value that it has among all numbers, so
that none leaves the 64-bit range. -/
structure IsExact (first second : UInt32) : Prop where
  first_product : (triple first).toNat = 3 * first.toNat
  second_product : (triple second).toNat = 3 * second.toNat
  sum : (places first + whole second).toNat = (places first).toNat + (whole second).toNat
  raise : (whole first + 1).toNat = (whole first).toNat + 1

theorem isExact (first second : UInt32) : IsExact first second := by
  have first_bound := first.toNat_lt
  have second_bound := second.toNat_lt
  constructor
  · exact toNat_triple first
  · exact toNat_triple second
  · rw [UInt64.toNat_add, toNat_places, toNat_whole]
    omega
  · rw [UInt64.toNat_add, toNat_whole]
    change (_ + 1) % 2 ^ 64 = _
    omega

/-- Behind a word that is not close to the next third no second word leads there. -/
private theorem raised_of_settled {first : UInt32} (settled : ¬ Unsettled first) (second : UInt32) :
    raised first second = whole first := by
  have far : ¬ isClose first = true := mt (isClose_iff first).mp settled
  have low : (places first).toNat ≤ 0xFFFFFFFD := by
    rw [isClose, decide_eq_true_iff] at far
    exact UInt64.le_iff_toNat_le.mp (UInt64.not_lt.mp far)
  have few : (whole second).toNat < 3 := whole_lt second
  have below : ¬ places first + whole second ≥ 0x100000000 := by
    intro reached
    have carried := UInt64.le_iff_toNat_le.mp reached
    rw [(isExact first second).sum] at carried
    change 0x100000000 ≤ _ at carried
    omega
  rw [raised, if_neg below]

theorem moveOf?_settled {first : UInt32} (settled : ¬ Unsettled first) (second : UInt32) :
    moveOf? [first, second] = moveOf? [first] := by
  rw [moveOf?_pair, moveOf?_single]
  simp only [raised_of_settled settled]

/-- A draw gives the move of the next two words, also where it does not take the second. -/
theorem draw_words (generator : Generator) :
    moveOf? (generator.words 2) = some (draw generator).1 ∧
      (draw generator).2 = generator.advance (reach (generator.word 0)) := by
  obtain ⟨block, isBlock, taken, means, left⟩ := draw_block generator
  cases isBlock with
  | @single word isSettled =>
    have isFirst : generator.word 0 = word := (List.cons.inj taken).1
    have settled : ¬ Unsettled word := not_or.mpr isSettled
    constructor
    · rw [← means, ← moveOf?_settled settled (generator.word 1), ← isFirst]
      rfl
    · rw [left, isFirst, reach, if_neg settled]
      rfl
  | @pair first second isUnsettled =>
    have isFirst : generator.word 0 = first := (List.cons.inj taken).1
    have unsettled : Unsettled first := isUnsettled
    constructor
    · rw [← means, ← taken]
      rfl
    · rw [left, isFirst, reach, if_pos unsettled]
      rfl

end Random

namespace Opponent

open Roshambo.Random

/-- The move is read off the two words ahead. -/
theorem all_third {generator : Generator} {first second : UInt32}
    (ahead : generator.words 2 = [first, second]) :
    Move.all[third first second]? = some (random generator).play.1 := by
  have moved := (draw_words generator).1
  rw [ahead] at moved
  apply Eq.trans _ moved
  simp [moveOf?, third, ofWords]

theorem play_settled {generator other : Generator} (settled : ¬ Unsettled (generator.word 0))
    (same : other.word 0 = generator.word 0) :
    (random other).play.1 = (random generator).play.1 := by
  apply Option.some.inj
  calc some (draw other).1
    _ = moveOf? [other.word 0, other.word 1] := (draw_words other).1.symm
    _ = moveOf? [generator.word 0] := by rw [same, moveOf?_settled settled]
    _ = moveOf? [generator.word 0, generator.word 1] := (moveOf?_settled settled _).symm
    _ = some (draw generator).1 := (draw_words generator).1

/-- Behind an unsettled word both the lowest and the highest word may come, and they differ. -/
private theorem exists_second_word {first : UInt32} (unsettled : Unsettled first) :
    ∃ low high : Generator, low.word 0 = first ∧ high.word 0 = first ∧
      (random low).play.1 ≠ (random high).play.1 := by
  refine ⟨.listed ⟨[first, 0], 0, by simp⟩, .listed ⟨[first, 0xFFFFFFFF], 0, by simp⟩, rfl, rfl, ?_⟩
  obtain rfl | rfl := unsettled
  · decide +kernel
  · decide +kernel

/-- With two words ahead the move is the one whose third they are in; the second is read exactly if
the first leaves the move open. -/
theorem play_scaled {generator : Generator} {first second : UInt32}
    (ahead : generator.words 2 = [first, second]) :
    third first second < Move.all.length ∧
      Move.all[third first second]? = some (random generator).play.1 ∧
      (random generator).play.2 = random (generator.advance (reach first)) ∧
      (∀ cycle, generator = .listed cycle →
        (random generator).play.2.wordsDrawn? = some (cycle.taken + reach first)) ∧
      ((∀ other : Generator, other.word 0 = first →
        (random other).play.1 = (random generator).play.1) ↔ ¬ Unsettled first) ∧
      IsExact first second := by
  have isFirst : generator.word 0 = first := (List.cons.inj ahead).1
  have left : (random generator).play.2 = random (generator.advance (reach first)) := by
    rw [← isFirst]
    exact congrArg random (draw_words generator).2
  refine ⟨third_lt first second, all_third ahead, left, ?_, ?_, isExact first second⟩
  · rintro cycle rfl
    rw [left, Generator.advance_listed]
    rfl
  · constructor
    · intro same unsettled
      -- Behind an unsettled word the lowest and the highest word draw different moves.
      obtain ⟨low, high, isLow, isHigh, different⟩ := exists_second_word unsettled
      exact different ((same low isLow).trans (same high isHigh).symm)
    · intro settled other begins
      rw [← isFirst] at settled begins
      exact play_settled settled begins

/-- The lowest pair of the second third: its first word alone would be in the first third. -/
theorem play_scaled_carried :
    let generator : Generator := .listed ⟨[0x55555555, 0x55555556, 9], 0, by decide⟩
    generator.words 2 = [0x55555555, 0x55555556] ∧
      (random generator).play.1 = .paper ∧ (random generator).play.2.wordsDrawn? = some 2 := by
  intro generator
  have ahead : generator.words 2 = [0x55555555, 0x55555556] := rfl
  obtain ⟨_, moved, _, drawn, _, _⟩ := play_scaled ahead
  have isPaper : Move.all[third 0x55555555 0x55555556]? = some .paper := by decide
  exact ⟨ahead, Option.some.inj (moved.symm.trans isPaper), drawn _ rfl⟩

end Opponent

namespace Random

def number (pair : UInt32 × UInt32) : Nat := pair.1.toNat * 2 ^ 32 + pair.2.toNat

private theorem number_injective : Function.Injective number := by
  rintro ⟨first, second⟩ ⟨other, last⟩ same
  have second_bound := second.toNat_lt
  have last_bound := last.toNat_lt
  simp only [number] at same
  have firsts : first.toNat = other.toNat := by omega
  have seconds : second.toNat = last.toNat := by omega
  rw [UInt32.toNat_inj.mp firsts, UInt32.toNat_inj.mp seconds]

private theorem exists_number {value : Nat} (bound : value < 2 ^ 64) :
    ∃ pair, number pair = value := by
  refine ⟨(UInt32.ofNat (value / 2 ^ 32), UInt32.ofNat (value % 2 ^ 32)), ?_⟩
  simp only [number, UInt32.toNat_ofNat']
  omega

private theorem ncard_third {index : Nat} (below : index < 3) :
    {pair : UInt32 × UInt32 | third pair.1 pair.2 = index}.ncard =
      ((index + 1) * 2 ^ 64 + 2) / 3 - (index * 2 ^ 64 + 2) / 3 := by
  have numbers : Set.image number {pair : UInt32 × UInt32 | third pair.1 pair.2 = index} =
      Finset.Ico ((index * 2 ^ 64 + 2) / 3) (((index + 1) * 2 ^ 64 + 2) / 3) := by
    ext value
    rw [Finset.coe_Ico, Set.mem_Ico]
    constructor
    · rintro ⟨pair, isThird, rfl⟩
      change 3 * number pair / 2 ^ 64 = index at isThird
      omega
    · rintro ⟨above, before⟩
      obtain ⟨pair, rfl⟩ := exists_number (show value < 2 ^ 64 by omega)
      refine ⟨pair, ?_, rfl⟩
      change 3 * number pair / 2 ^ 64 = index
      omega
  rw [← Set.ncard_image_of_injective _ number_injective, numbers, Set.ncard_coe_finset,
    Nat.card_Ico]

end Random

namespace Opponent

open Roshambo.Random

/-- The pairs of words on which a move is played, when each pair is ahead of a generator of its
own. -/
def share (offer : UInt32 × UInt32 → Generator) (move : Move) : Set (UInt32 × UInt32) :=
  {pair | (random (offer pair)).play.1 = move}

theorem play_eq_iff {generator : Generator} {first second : UInt32}
    (ahead : generator.words 2 = [first, second]) (move : Move) :
    (random generator).play.1 = move ↔ third first second = move.index := by
  have moved := all_third ahead
  constructor
  · rintro rfl
    have once : Move.all.Nodup := by decide
    apply (List.getElem?_inj (third_lt first second) once).mp
    rw [moved, Move.all_get_index]
  · intro isThird
    rw [isThird, Move.all_get_index] at moved
    exact (Option.some.inj moved).symm

private theorem ncard_share {offer : UInt32 × UInt32 → Generator}
    (offers : ∀ pair, (offer pair).words 2 = [pair.1, pair.2]) (move : Move) :
    (share offer move).ncard =
      ((move.index + 1) * 2 ^ 64 + 2) / 3 - (move.index * 2 ^ 64 + 2) / 3 := by
  have thirds : share offer move =
      {pair : UInt32 × UInt32 | third pair.1 pair.2 = move.index} := by
    ext pair
    exact play_eq_iff (offers pair) move
  have below : move.index < 3 := by cases move <;> decide
  rw [thirds, ncard_third below]

/-- However the pairs of words are offered, the moves share all of them but for one evenly. -/
theorem shares_even {offer : UInt32 × UInt32 → Generator}
    (offers : ∀ pair, (offer pair).words 2 = [pair.1, pair.2]) :
    (share offer .rock).ncard = 6148914691236517206 ∧
      (share offer .paper).ncard = 6148914691236517205 ∧
      (share offer .scissors).ncard = 6148914691236517205 ∧
      (∀ move, (share offer move).ncard = 2 ^ 64 / 3 ∨ (share offer move).ncard = 2 ^ 64 / 3 + 1) ∧
      ∀ move other, (share offer move).ncard ≤ (share offer other).ncard + 1 := by
  have counts := ncard_share offers
  refine ⟨counts .rock, counts .paper, counts .scissors, ?_, ?_⟩
  · intro move
    rw [counts]
    cases move <;> decide
  · intro move other
    rw [counts, counts]
    cases move <;> cases other <;> decide

/-- Each pair of words may be offered as a list. -/
theorem shares_even_listed :
    let offer (pair : UInt32 × UInt32) : Generator := .listed ⟨[pair.1, pair.2], 0, by simp⟩
    (∀ pair, (offer pair).words 2 = [pair.1, pair.2]) ∧
      (share offer .rock).ncard = 6148914691236517206 ∧
      (share offer .paper).ncard = 6148914691236517205 := by
  intro offer
  have offers (pair : UInt32 × UInt32) : (offer pair).words 2 = [pair.1, pair.2] := rfl
  obtain ⟨rocks, papers, _⟩ := shares_even offers
  exact ⟨offers, rocks, papers⟩

end Opponent

end Roshambo
