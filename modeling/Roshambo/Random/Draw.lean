import Roshambo.Move
import Roshambo.Random.Generator

/-! # Drawing a move from words

Three times a word, read as a fixed-point number with 32 places after the point, has a whole part
below three: this is the index of the move drawn. Only when the places after the point are so close
to one that a carry out of the next word could still raise the whole part is that word drawn too.
`whole_lt` and `raised_lt` say that the index stays below three in both cases; no intermediate
value leaves the 64-bit range, because `toNat_triple` has no remainder to take.
-/

namespace Roshambo.Random

def triple (word : UInt32) : UInt64 := 3 * word.toUInt64

/-- What stands before the point of a tripled word. -/
def whole (word : UInt32) : UInt64 := triple word / 0x100000000

/-- The 32 places after the point of a tripled word. -/
def places (word : UInt32) : UInt64 := triple word % 0x100000000

/-- Whether a carry out of the next word could still change the whole part. -/
def isClose (word : UInt32) : Bool := places word > 0xFFFFFFFD

/-- The whole part of the first word, raised by the carry out of the second. -/
def raised (first second : UInt32) : UInt64 :=
  if places first + whole second ≥ 0x100000000 then whole first + 1 else whole first

theorem toNat_triple (word : UInt32) : (triple word).toNat = 3 * word.toNat := by
  have bound := word.toNat_lt
  simp only [triple, UInt64.toNat_mul, UInt32.toNat_toUInt64]
  show 3 * word.toNat % 2 ^ 64 = 3 * word.toNat
  omega

theorem toNat_whole (word : UInt32) : (whole word).toNat = 3 * word.toNat / 0x100000000 := by
  simp only [whole, UInt64.toNat_div, toNat_triple]
  rfl

theorem toNat_places (word : UInt32) : (places word).toNat = 3 * word.toNat % 0x100000000 := by
  simp only [places, UInt64.toNat_mod, toNat_triple]
  rfl

theorem whole_lt (word : UInt32) : (whole word).toNat < Move.all.length := by
  have bound := word.toNat_lt
  rw [toNat_whole]
  show _ < 3
  omega

theorem toNat_raised (first second : UInt32) :
    (raised first second).toNat =
      if 3 * first.toNat % 0x100000000 + 3 * second.toNat / 0x100000000 ≥ 0x100000000 then
        3 * first.toNat / 0x100000000 + 1
      else 3 * first.toNat / 0x100000000 := by
  have first_bound := first.toNat_lt
  have second_bound := second.toNat_lt
  have sum : (places first + whole second).toNat =
      3 * first.toNat % 0x100000000 + 3 * second.toNat / 0x100000000 := by
    rw [UInt64.toNat_add, toNat_places, toNat_whole]
    omega
  have sure : (places first + whole second ≥ 0x100000000) ↔
      3 * first.toNat % 0x100000000 + 3 * second.toNat / 0x100000000 ≥ 0x100000000 := by
    rw [ge_iff_le, UInt64.le_iff_toNat_le, sum]
    exact Iff.rfl
  unfold raised
  simp only [sure]
  split
  · rw [UInt64.toNat_add, toNat_whole]
    show (_ + 1) % 2 ^ 64 = _
    omega
  · exact toNat_whole first

theorem raised_lt (first second : UInt32) : (raised first second).toNat < Move.all.length := by
  have first_bound := first.toNat_lt
  have second_bound := second.toNat_lt
  rw [toNat_raised]
  show _ < 3
  split <;> omega

/-- Draw a move: one word, or two when the first is close. -/
def draw (generator : Generator) : Move × Generator :=
  let (first, generator) := generator.next
  if isClose first then
    let (second, generator) := generator.next
    (Move.all.get ⟨(raised first second).toNat, raised_lt first second⟩, generator)
  else (Move.all.get ⟨(whole first).toNat, whole_lt first⟩, generator)

end Roshambo.Random
