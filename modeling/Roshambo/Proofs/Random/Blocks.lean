import Mathlib.Algebra.Group.Nat.Defs
import Roshambo.Opponent

/-! # How a random opponent reads its words

A move takes one or two words off the front of a generator: such a block is a fraction to the base
2³², and three times the fraction, rounded down, is the index of the move. Where the next block
begins depends on all blocks before it, but what a block says depends on nothing else, and so a
random opponent cuts the words to come into blocks without leaving one out or reading one twice
(`moves_of_blocks`).
-/

namespace Roshambo

namespace Random

namespace Generator

def words (generator : Generator) (count : Nat) : List UInt32 :=
  (List.range count).map generator.word

private theorem word_advance (generator : Generator) (count place : Nat) :
    (generator.advance count).word place = generator.word (count + place) := by
  rw [word, word, advance_add]

private theorem words_add (generator : Generator) (first second : Nat) :
    generator.words (first + second) =
      generator.words first ++ (generator.advance first).words second := by
  rw [words, List.range_add, List.map_append, List.map_map]
  congr 1
  exact List.map_congr_left fun place _ => (word_advance generator first place).symm

theorem advance_listed (cycle : Cycle UInt32) (count : Nat) :
    (listed cycle).advance count = .listed { cycle with taken := cycle.taken + count } := by
  induction count generalizing cycle with
  | zero => rfl
  | succ count ih =>
    change (listed cycle.next.2).advance count = _
    rw [ih, Cycle.next_taken, Nat.add_assoc, Nat.add_comm 1 count]
    rfl

/-- A list of words is given out from its front again whenever it has come to its end. -/
private theorem word_listed (cycle : Cycle UInt32) (place : Nat) :
    cycle.items[(cycle.taken + place) % cycle.items.length]? =
      some ((listed cycle).word place) := by
  have bound := Nat.mod_lt (cycle.taken + place) (List.length_pos_iff.mpr cycle.items_ne_nil)
  rw [word, advance_listed, List.getElem?_eq_getElem bound]
  rfl

end Generator

/-- What a move is drawn from: a word, or two if a second one could still raise the first over the
next third. -/
inductive IsBlock : List UInt32 → Prop
  | single {word : UInt32} (settled : word ≠ 0x55555555 ∧ word ≠ 0xAAAAAAAA) : IsBlock [word]
  | pair {first second : UInt32} (unsettled : first = 0x55555555 ∨ first = 0xAAAAAAAA) :
      IsBlock [first, second]

def ofWords (words : List UInt32) : Nat :=
  words.foldl (fun value word => value * 2 ^ 32 + word.toNat) 0

/-- The move of a block: which third of all numbers of its length the block is in. -/
def moveOf? (block : List UInt32) : Option Move :=
  Move.all[3 * ofWords block / 2 ^ (32 * block.length)]?

theorem isClose_iff (word : UInt32) :
    isClose word = true ↔ word = 0x55555555 ∨ word = 0xAAAAAAAA := by
  have bound := word.toNat_lt
  have low : word = 0x55555555 ↔ word.toNat = 0x55555555 := UInt32.toNat_inj.symm
  have high : word = 0xAAAAAAAA ↔ word.toNat = 0xAAAAAAAA := UInt32.toNat_inj.symm
  have limit : (0xFFFFFFFD : UInt64).toNat = 0xFFFFFFFD := rfl
  have thirds : 3 * word.toNat / 0x100000000 = 0 ∨ 3 * word.toNat / 0x100000000 = 1 ∨
      3 * word.toNat / 0x100000000 = 2 := by omega
  rw [isClose, decide_eq_true_iff, gt_iff_lt, UInt64.lt_iff_toNat_lt, toNat_places, limit, low,
    high]
  -- Within each third only one word is as close as that to the next one, and to the last none is.
  rcases thirds with first | second | third
  · omega
  · omega
  · omega

theorem moveOf?_single (word : UInt32) :
    moveOf? [word] = some (Move.all.get ⟨(whole word).toNat, whole_lt word⟩) := by
  have index : 3 * ofWords [word] / 2 ^ (32 * [word].length) = (whole word).toNat := by
    simp only [ofWords, List.foldl_cons, List.foldl_nil, List.length_singleton, toNat_whole]
    omega
  rw [moveOf?, index]
  exact List.getElem?_eq_getElem (whole_lt word)

theorem moveOf?_pair (first second : UInt32) :
    moveOf? [first, second] =
      some (Move.all.get ⟨(raised first second).toNat, raised_lt first second⟩) := by
  have second_bound := second.toNat_lt
  have index : 3 * ofWords [first, second] / 2 ^ (32 * [first, second].length) =
      (raised first second).toNat := by
    calc 3 * ofWords [first, second] / 2 ^ (32 * [first, second].length)
      _ = (3 * first.toNat * 2 ^ 32 + 3 * second.toNat) / (2 ^ 32 * 2 ^ 32) := by
        simp only [ofWords, List.foldl_cons, List.foldl_nil, List.length_cons, List.length_nil]
        congr 1
        omega
      _ = (3 * first.toNat + 3 * second.toNat / 2 ^ 32) / 2 ^ 32 := by
        rw [← Nat.div_div_eq_div_mul, Nat.mul_comm (3 * first.toNat), Nat.mul_add_div (by decide)]
      _ = (raised first second).toNat := by
        rw [toNat_raised]
        split <;> omega
  rw [moveOf?, index]
  exact List.getElem?_eq_getElem (raised_lt first second)

/-- One draw takes one block and leaves the words behind it. -/
theorem draw_block (generator : Generator) :
    ∃ block, IsBlock block ∧ generator.words block.length = block ∧
      moveOf? block = some (draw generator).1 ∧
      (draw generator).2 = generator.advance block.length := by
  by_cases close : isClose generator.next.1 = true
  · refine ⟨[generator.next.1, generator.next.2.next.1], ?_, rfl, ?_, ?_⟩
    · exact .pair ((isClose_iff _).mp close)
    · simp only [moveOf?_pair, draw, if_pos close]
    · simp only [draw, if_pos close]
      rfl
  · refine ⟨[generator.next.1], ?_, rfl, ?_, ?_⟩
    · exact .single (not_or.mp (mt (isClose_iff _).mpr close))
    · simp only [moveOf?_single, draw, if_neg close]
    · simp only [draw, if_neg close]
      rfl

theorem IsBlock.length_bounds {block : List UInt32} (isBlock : IsBlock block) :
    1 ≤ block.length ∧ block.length ≤ 2 := by
  cases isBlock <;> simp

private theorem length_flatten_blocks {blocks : List (List UInt32)}
    (all : ∀ block ∈ blocks, IsBlock block) :
    blocks.length ≤ blocks.flatten.length ∧ blocks.flatten.length ≤ 2 * blocks.length := by
  induction blocks with
  | nil => simp
  | cons block blocks ih =>
    obtain ⟨isBlock, others⟩ := List.forall_mem_cons.mp all
    have one := isBlock.length_bounds
    have rest := ih others
    simp only [List.flatten_cons, List.length_append, List.length_cons]
    omega

end Random

namespace Opponent

open Roshambo.Random

/-- The moves drawn in turn are those of the blocks in turn, and exactly their words are gone. -/
theorem random_blocks (generator : Generator) (count : Nat) :
    ∃ blocks : List (List UInt32), blocks.length = count ∧ (∀ block ∈ blocks, IsBlock block) ∧
      generator.words blocks.flatten.length = blocks.flatten ∧
      (moves count (random generator)).map some = blocks.map moveOf? ∧
      advance count (random generator) = random (generator.advance blocks.flatten.length) := by
  induction count generalizing generator with
  | zero => exact ⟨[], rfl, by simp, rfl, rfl, rfl⟩
  | succ count ih =>
    obtain ⟨block, isBlock, taken, means, left⟩ := draw_block generator
    obtain ⟨blocks, number, all, others, moved, after⟩ := ih (draw generator).2
    rw [left] at others after
    refine ⟨block :: blocks, congrArg (· + 1) number, ?_, ?_, ?_, ?_⟩
    · exact List.forall_mem_cons.mpr ⟨isBlock, all⟩
    · rw [List.flatten_cons, List.length_append, Generator.words_add, taken, others]
    · rw [List.map_cons, means, ← moved]
      rfl
    · rw [List.flatten_cons, List.length_append, Generator.advance_add]
      change advance count (random (draw generator).2) = _
      rw [left]
      exact after

/-- The words drawn fall into one block for each move, each of one word or two, and a move is read
off its block alone. -/
theorem moves_of_blocks (generator : Generator) (count : Nat) :
    ∃ blocks : List (List UInt32), blocks.length = count ∧ (∀ block ∈ blocks, IsBlock block) ∧
      count ≤ blocks.flatten.length ∧ blocks.flatten.length ≤ 2 * count ∧
      generator.words blocks.flatten.length = blocks.flatten ∧
      advance count (random generator) = random (generator.advance blocks.flatten.length) ∧
      (moves count (random generator)).map some = blocks.map moveOf? ∧
      -- The words of a list come round for ever, also within a block.
      ∀ cycle, generator = .listed cycle →
        (∀ place, cycle.items[(cycle.taken + place) % cycle.items.length]? =
          some (generator.word place)) ∧
        (advance count (random generator)).wordsDrawn? =
          some (cycle.taken + blocks.flatten.length) := by
  obtain ⟨blocks, number, all, taken, moved, after⟩ := random_blocks generator count
  have bounds := length_flatten_blocks all
  rw [number] at bounds
  refine ⟨blocks, number, all, bounds.1, bounds.2, taken, after, moved, ?_⟩
  rintro cycle rfl
  refine ⟨Generator.word_listed cycle, ?_⟩
  rw [after, Generator.advance_listed]
  rfl

/-- Three moves from two words that come round: the last two are drawn from two words each, over the
end of the list. -/
theorem moves_of_blocks_wrapping :
    let cycle : Cycle UInt32 := ⟨[5, 0x55555555], 0, by decide⟩
    ∃ blocks : List (List UInt32), blocks.length = 3 ∧ (∀ block ∈ blocks, IsBlock block) ∧
      blocks.flatten = [5, 0x55555555, 5, 0x55555555, 5] ∧
      (moves 3 (random (.listed cycle))).map some = blocks.map moveOf? ∧
      (advance 3 (random (.listed cycle))).wordsDrawn? = some 5 := by
  intro cycle
  obtain ⟨blocks, number, all, _, _, taken, _, moved, listed⟩ := moves_of_blocks (.listed cycle) 3
  have drawn : (advance 3 (random (.listed cycle))).wordsDrawn? = some 5 := by decide +kernel
  have five : blocks.flatten.length = 5 := by
    have total := (listed cycle rfl).2.symm.trans drawn
    exact (Nat.zero_add _).symm.trans (Option.some.inj total)
  rw [five] at taken
  have words : (Generator.listed cycle).words 5 = [5, 0x55555555, 5, 0x55555555, 5] := by
    decide +kernel
  exact ⟨blocks, number, all, taken.symm.trans words, moved, drawn⟩

end Opponent

end Roshambo
