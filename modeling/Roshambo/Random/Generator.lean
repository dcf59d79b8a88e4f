import Roshambo.Cycle
import Roshambo.Random.ChaCha
import Roshambo.Random.Xoshiro

/-! # Word generators

A generator hands out 32-bit words one at a time. It is a keyed stream, a small stirred state or a
given list of words repeated for ever; what uses it sees only `Generator.next`.
-/

namespace Roshambo.Random

/-- A source of 32-bit words. -/
inductive Generator where
  | keyed (stream : ChaCha)
  | stirred (state : Xoshiro)
  | listed (words : Cycle UInt32)

namespace Generator

def next : Generator → UInt32 × Generator
  | keyed stream => (stream.next.1, keyed stream.next.2)
  | stirred state => (state.next.1, stirred state.next.2)
  | listed words => (words.next.1, listed words.next.2)

def advance : Nat → Generator → Generator
  | 0, generator => generator
  | count + 1, generator => advance count generator.next.2

/-- The word at a place of what is still to come, counted from zero. -/
def word (generator : Generator) (place : Nat) : UInt32 := (advance place generator).next.1

/-- How many words have been taken from a listed generator; the others do not count. -/
def taken? : Generator → Option Nat
  | listed words => some words.taken
  | _ => none

theorem advance_add (first second : Nat) (generator : Generator) :
    advance (first + second) generator = advance second (advance first generator) := by
  induction first generalizing generator with
  | zero => simp [advance]
  | succ first ih =>
    rw [Nat.succ_add]
    exact ih generator.next.2

end Generator

end Roshambo.Random
