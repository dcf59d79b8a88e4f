import Roshambo.Proofs.Console.Failures

/-! # Flushes that are to fail

The flush that is to fail is planned ahead, by its number. An action that does not come to it does
the same with the plan as without it (`Composed.overlooks`), so everything that is known of an
action on a device that never fails holds up to that flush.
-/

namespace Roshambo

/-- The device with another plan for a flush that is to fail, or with none. -/
def Device.planned (device : Device) (plan : Option (Nat × Fault)) : Device :=
  { device with flushFault := plan }

def Console.planned (console : Console) (plan : Option (Nat × Fault)) : Console :=
  { console with device := console.device.planned plan }

/-- No write and no flush on the device fails, and none is planned to. -/
structure Device.NeverFails (device : Device) : Prop extends device.IsFree where
  unplanned : device.flushFault = none

theorem Device.NeverFails.cleared {device : Device} (never : device.NeverFails) :
    device.cleared.NeverFails :=
  ⟨⟨never.unlimited, never.moves⟩, never.unplanned⟩

namespace Action

variable {α β : Type}

/-- An action that does not come to the flush that is to fail goes as without the plan. -/
def Overlooks (action : Action α) : Prop :=
  ∀ console place fault, console.device.NeverFails →
    place ≤ console.device.flushes ∨ (action console).2.device.flushes < place →
      action (console.planned (some (place, fault))) =
        ((action console).1, (action console).2.planned (some (place, fault)))

private theorem overlooks_print (text : String) : (print text).Overlooks := by
  intro console place fault never _
  obtain ⟨result, taken, written⟩ := console.device.exists_write (Text.encode text)
  have alone := written console.device rfl never.moves
  have other := written (console.device.planned (some (place, fault))) rfl never.moves
  simp only [print, Console.planned, alone, other]
  rfl

private theorem overlooks_flush : flush.Overlooks := by
  intro console place fault never apart
  have alone : console.device.flushResult = .ok () := by
    rw [Device.flushResult, never.unplanned]
  have other : (console.device.planned (some (place, fault))).flushResult = .ok () := by
    have flushes : (flush console).2.device.flushes = console.device.flushes + 1 := by
      rw [flush, Device.flush_eq]
      rfl
    rw [flushes] at apart
    exact if_neg (by change console.device.flushes + 1 ≠ place; omega)
  simp only [flush, Console.planned, Device.flush_eq, alone, other]
  rfl

/-- What a composed action does to a device that never fails. -/
theorem Composed.spent {action : Action α} (composed : Composed action) {console : Console}
    (never : console.device.NeverFails) :
    (action console).2.device.NeverFails ∧
      console.device.flushes ≤ (action console).2.device.flushes := by
  obtain ⟨written, flushes, lines, went, _⟩ := composed.accounts console never.moves
  refine ⟨⟨⟨?_, went.device.moves never.moves⟩, ?_⟩, ?_⟩
  · rw [went.device.limit, never.unlimited]
    rfl
  · rw [went.device.flushFault, never.unplanned]
  · rw [went.device.flushes]
    exact Nat.le_add_right _ _

/-- A sequence makes all the flushes of its first part. -/
theorem Composed.flushes_le {first : Action α} {next : α → Action β} (composed : Composed first)
    (composedNext : ∀ value, Composed (next value)) {console : Console}
    (never : console.device.NeverFails) :
    (first console).2.device.flushes ≤ ((first >>= next) console).2.device.flushes := by
  obtain ⟨still, _⟩ := composed.spent never
  rw [bind_apply]
  rcases ended : first console with ⟨result, middle⟩
  rw [ended] at still
  cases result with
  | error error => exact Nat.le_refl _
  | ok value => exact ((composedNext value).spent still).2

theorem Overlooks.bind {first : Action α} {next : α → Action β} (composed : Composed first)
    (composedNext : ∀ value, Composed (next value)) (head : first.Overlooks)
    (tail : ∀ value, (next value).Overlooks) : (first >>= next).Overlooks := by
  intro console place fault never apart
  have early := head console place fault never
  obtain ⟨still, grown⟩ := composed.spent never
  rw [bind_apply] at apart ⊢
  rw [bind_apply]
  rcases ended : first console with ⟨result, middle⟩
  rw [ended] at early still grown apart
  cases result with
  | error error => rw [early apart]
  | ok value =>
    obtain ⟨_, further⟩ := (composedNext value).spent still
    simp only at early apart grown further
    rw [early (by omega)]
    exact tail value middle place fault still (by omega)

/-- No composed action minds a plan for a flush that it does not come to. -/
theorem Composed.overlooks {action : Action α} (composed : Composed action) :
    action.Overlooks := by
  induction composed with
  | pure value => exact fun _ _ _ _ _ => rfl
  | close => exact fun _ _ _ _ _ => rfl
  | remark entries => exact fun _ _ _ _ _ => rfl
  | print text => exact overlooks_print text
  | flush => exact overlooks_flush
  | readLine => exact fun _ _ _ _ _ => rfl
  | bind composed composedNext head tail => exact head.bind composed composedNext tail
  | limit stage _ agree ih =>
    intro console place fault never apart
    have enough := Nat.lt_succ_self console.input.byteCount
    rw [agree _ console enough] at apart ⊢
    rw [agree _ (console.planned (some (place, fault))) enough]
    exact ih _ console place fault never apart

end Action

end Roshambo
