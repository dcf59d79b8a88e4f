/-! # Cycles

A cycle hands out the items of a non-empty list in turn and starts over at the end. It keeps the
list and the number of items handed out, so the item at place `p` is item `p` modulo the length,
however often the list has been gone through.
-/

namespace Roshambo

/-- A non-empty list, and how many items have been taken from its endless repetition. -/
structure Cycle (α : Type) where
  items : List α
  taken : Nat
  items_ne_nil : items ≠ []

namespace Cycle

variable {α : Type}

/-- A fresh cycle over a list, if there is anything in it. -/
def ofList? (items : List α) : Option (Cycle α) :=
  if nonempty : items ≠ [] then some ⟨items, 0, nonempty⟩ else none

def item (cycle : Cycle α) (place : Nat) : α :=
  cycle.items.get ⟨place % cycle.items.length,
    Nat.mod_lt _ (List.length_pos_iff.mpr cycle.items_ne_nil)⟩

def next (cycle : Cycle α) : α × Cycle α :=
  (cycle.item cycle.taken, { cycle with taken := cycle.taken + 1 })

theorem next_taken (cycle : Cycle α) : cycle.next.2.taken = cycle.taken + 1 := rfl

end Cycle

end Roshambo
