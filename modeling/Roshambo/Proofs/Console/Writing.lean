import Roshambo.Console.Device
import Roshambo.Text.Utf8

/-! # What a device takes of a text

However few bytes a single write accepts, a text that fits is taken whole, and of a text that does
not fit exactly the first bytes are taken, as many as there is room for; the device then reports
its reason (`write_of_fits`, `write_of_exceeds`). Only a device whose single writes accept nothing
at all is left out: `Device.Moves` says that it is not that one. On any device a text may be written
in parts (`write_append`). A flush takes nothing and is counted whether it fails or not
(`flush_eq`).
-/

namespace Roshambo

namespace Limit

/-- What a full device reports: the fault of its limit, or that nothing was written. -/
def reason (limit : Limit) : Fault := limit.fault.getD .nothingWritten

def spend (limit : Limit) (count : Nat) : Limit := { limit with room := limit.room - count }

theorem spend_spend (limit : Limit) (first second : Nat) :
    (limit.spend first).spend second = limit.spend (first + second) := by
  simp only [spend, Nat.sub_sub]

theorem reason_spend (limit : Limit) (count : Nat) : (limit.spend count).reason = limit.reason :=
  rfl

theorem room_spend (limit : Limit) (count : Nat) : (limit.spend count).room = limit.room - count :=
  rfl

end Limit

namespace Device

/-- A single write on the device takes at least one byte, as long as there is room. -/
def Moves (device : Device) : Prop := device.chunk ≠ some 0

def Fits (device : Device) (count : Nat) : Prop := ∀ limit ∈ device.limit, count ≤ limit.room

theorem take_nil (device : Device) : device.take [] = device := by
  rcases device with ⟨chunk, limit, flushFault, flushes, taken⟩
  cases limit <;> rfl

theorem take_take (device : Device) (first second : List UInt8) :
    (device.take first).take second = device.take (first ++ second) := by
  simp only [take, List.reverse_append, List.append_assoc, Option.map_map, Function.comp_def,
    List.length_append, Nat.sub_sub]

theorem limit_take (device : Device) (bytes : List UInt8) :
    (device.take bytes).limit = device.limit.map (·.spend bytes.length) := rfl

theorem moves_take {device : Device} (bytes : List UInt8) (moves : device.Moves) :
    (device.take bytes).Moves := moves

theorem fits_take {device : Device} {first second : List UInt8}
    (fits : device.Fits (first ++ second).length) : (device.take first).Fits second.length := by
  intro limit member
  obtain ⟨before, present, rfl⟩ := Option.map_eq_some_iff.mp member
  have room := fits before present
  rw [List.length_append] at room
  exact Nat.le_sub_of_add_le' room

private theorem bound?_fits {device : Device} {count : Nat} (bound : device.bound? = some count) :
    device.Fits count := by
  intro limit member
  simp only [bound?, Option.mem_def.mp member, Option.map_some] at bound
  cases chunk : device.chunk with
  | none => rw [chunk] at bound; cases bound; exact Nat.le_refl _
  | some size => rw [chunk] at bound; cases bound; exact Nat.min_le_right _ _

/-- A single write takes nothing only where there is no room. -/
theorem bound?_zero {device : Device} (moves : device.Moves) (bound : device.bound? = some 0) :
    ∃ limit ∈ device.limit, limit.room = 0 := by
  unfold bound? at bound
  cases chunk : device.chunk with
  | none =>
    rw [chunk] at bound
    obtain ⟨limit, member, none_left⟩ := Option.map_eq_some_iff.mp bound
    exact ⟨limit, member, none_left⟩
  | some size =>
    have positive : size ≠ 0 := fun zero => moves (by rw [chunk, zero])
    cases present : device.limit with
    | none =>
      rw [chunk, present] at bound
      cases bound
      contradiction
    | some limit =>
      rw [chunk, present] at bound
      have smaller : min size limit.room = 0 := Option.some.inj bound
      exact ⟨limit, rfl, by omega⟩

private theorem bound?_none {device : Device} (bound : device.bound? = none) :
    device.limit = none := by
  unfold bound? at bound
  cases present : device.limit with
  | none => rfl
  | some limit =>
    rw [present] at bound
    cases chunk : device.chunk <;> rw [chunk] at bound <;> cases bound

theorem refusal?_eq_some {device : Device} {fault : Fault}
    (refused : device.refusal? = some fault) :
    ∃ limit ∈ device.limit, limit.room = 0 ∧ limit.reason = fault := by
  obtain ⟨limit, member, given⟩ := Option.bind_eq_some_iff.mp refused
  split at given
  · next full => exact ⟨limit, member, full, by rw [Limit.reason, given, Option.getD_some]⟩
  · cases given

private theorem reason_of_refusal?_none {device : Device} {limit : Limit}
    (present : device.limit = some limit) (full : limit.room = 0)
    (silent : device.refusal? = none) : limit.reason = .nothingWritten := by
  rw [refusal?, present, Option.bind_some, if_pos full] at silent
  rw [Limit.reason, silent, Option.getD_none]

theorem write_nil (device : Device) : device.write [] = (.ok (), device) := by
  rw [write, if_pos rfl]

/-- A text that fits is taken whole. -/
theorem write_of_fits {device : Device} {bytes : List UInt8} (moves : device.Moves)
    (fits : device.Fits bytes.length) : device.write bytes = (.ok (), device.take bytes) := by
  fun_induction write device bytes with
  | case1 device => rw [take_nil]
  | case2 device bytes nonempty fault refused =>
    obtain ⟨limit, member, full, _⟩ := refusal?_eq_some refused
    have room := fits limit member
    have positive := List.length_pos_iff.mpr nonempty
    omega
  | case3 => rfl
  | case4 device bytes nonempty _ bound =>
    obtain ⟨limit, member, full⟩ := bound?_zero moves bound
    have room := fits limit member
    have positive := List.length_pos_iff.mpr nonempty
    omega
  | case5 device bytes _ _ count _ ih =>
    have whole := List.take_append_drop (count + 1) bytes
    rw [ih (moves_take _ moves) (fits_take (by rw [whole]; exact fits)), take_take, whole]

/-- Of a text that does not fit the first bytes are taken, and then the reason is given. -/
theorem write_of_exceeds {device : Device} {bytes : List UInt8} {limit : Limit}
    (moves : device.Moves) (present : device.limit = some limit)
    (exceeds : limit.room < bytes.length) :
    device.write bytes = (.error limit.reason, device.take (bytes.take limit.room)) := by
  fun_induction write device bytes generalizing limit with
  | case1 => simp only [List.length_nil] at exceeds; omega
  | case2 device bytes _ fault refused =>
    obtain ⟨other, member, full, reason⟩ := refusal?_eq_some refused
    cases Option.some.inj (present.symm.trans member)
    rw [full, List.take_zero, take_nil, reason]
  | case3 device bytes _ _ unbound =>
    rw [bound?_none unbound] at present
    cases present
  | case4 device bytes _ silent bound =>
    obtain ⟨other, member, full⟩ := bound?_zero moves bound
    cases Option.some.inj (present.symm.trans member)
    rw [full, List.take_zero, take_nil, reason_of_refusal?_none present full silent]
  | case5 device bytes _ _ count bound ih =>
    have within : count + 1 ≤ limit.room := bound?_fits bound limit present
    have length : (bytes.take (count + 1)).length = count + 1 := by
      rw [List.length_take]; omega
    have left : (device.take (bytes.take (count + 1))).limit = some (limit.spend (count + 1)) := by
      rw [limit_take, present, length]; rfl
    have further : (limit.spend (count + 1)).room < (bytes.drop (count + 1)).length := by
      rw [Limit.room_spend, List.length_drop]; omega
    rw [ih (moves_take _ moves) left further, take_take, Limit.reason_spend, Limit.room_spend,
      ← List.take_add, Nat.add_sub_cancel' within]

theorem exists_limit_of_not_fits {device : Device} {count : Nat} (large : ¬ device.Fits count) :
    ∃ limit, device.limit = some limit ∧ limit.room < count := by
  cases present : device.limit with
  | none =>
    refine absurd (fun limit member => ?_) large
    rw [present] at member
    cases member
  | some limit =>
    refine ⟨limit, rfl, Nat.lt_of_not_le fun small => large ?_⟩
    intro other member
    cases Option.some.inj (present.symm.trans member)
    exact small

/-- A device whose single writes accept nothing fails on any byte, in one way and for good. -/
private theorem exists_stuck {device : Device} (stuck : ¬ device.Moves) :
    ∃ fault, ∀ bytes ≠ [], device.write bytes = (.error fault, device) := by
  have nothing : device.chunk = some 0 := Decidable.not_not.mp stuck
  have bound : device.bound? = some 0 := by
    unfold bound?
    rw [nothing]
    cases device.limit with
    | none => rfl
    | some limit => exact congrArg some (Nat.zero_min limit.room)
  cases refused : device.refusal? with
  | some fault =>
    refine ⟨fault, fun bytes nonempty => ?_⟩
    rw [write, if_neg nonempty, refused]
  | none =>
    refine ⟨.nothingWritten, fun bytes nonempty => ?_⟩
    rw [write, if_neg nonempty, refused, bound]

/-- Behind a first part that is taken the second part meets what room is left. -/
private theorem write_append_of_fits {device : Device} {first : List UInt8} (moves : device.Moves)
    (fits : device.Fits first.length) (second : List UInt8) :
    device.write (first ++ second) = (device.take first).write second := by
  by_cases all : device.Fits (first ++ second).length
  · rw [write_of_fits moves all, ← take_take]
    exact (write_of_fits (moves_take first moves) (fits_take all)).symm
  · obtain ⟨limit, present, exceeds⟩ := exists_limit_of_not_fits all
    have room := fits limit present
    have left : (device.take first).limit = some (limit.spend first.length) := by
      rw [limit_take, present]; rfl
    have further : (limit.spend first.length).room < second.length := by
      rw [Limit.room_spend]
      rw [List.length_append] at exceeds
      omega
    rw [write_of_exceeds moves present exceeds,
      write_of_exceeds (moves_take first moves) left further, take_take, Limit.reason_spend,
      Limit.room_spend, List.take_append, List.take_of_length_le room]

/-- A text written in two parts goes the way it goes in one. -/
theorem write_append (device : Device) (first second : List UInt8) :
    device.write (first ++ second) =
      match device.write first with
      | (.ok (), after) => after.write second
      | (.error fault, after) => (.error fault, after) := by
  by_cases moves : device.Moves
  · by_cases fits : device.Fits first.length
    · rw [write_append_of_fits moves fits, write_of_fits moves fits]
    · obtain ⟨limit, present, exceeds⟩ := exists_limit_of_not_fits fits
      have beyond : limit.room < (first ++ second).length := by
        rw [List.length_append]; omega
      rw [write_of_exceeds moves present exceeds, write_of_exceeds moves present beyond,
        List.take_append_of_le_length (Nat.le_of_lt exceeds)]
  · obtain ⟨fault, fails⟩ := exists_stuck moves
    by_cases empty : first = []
    · rw [empty, List.nil_append, write_nil]
    · rw [fails first empty, fails _ (List.append_ne_nil_of_left_ne_nil empty second)]

/-- How the writing of a text ends, and what is taken of it, depends on the limit alone, as long as
a single write takes anything at all. -/
theorem exists_write (device : Device) (bytes : List UInt8) :
    ∃ result taken, ∀ other : Device, other.limit = device.limit → other.Moves →
      other.write bytes = (result, other.take taken) := by
  by_cases fits : device.Fits bytes.length
  · refine ⟨.ok (), bytes, fun other same moves => write_of_fits moves fun limit member => ?_⟩
    rw [same] at member
    exact fits limit member
  · obtain ⟨limit, present, exceeds⟩ := exists_limit_of_not_fits fits
    exact ⟨.error limit.reason, bytes.take limit.room, fun other same moves =>
      write_of_exceeds moves (same.trans present) exceeds⟩

/-- The device has no limit, so that it takes every text. -/
structure IsFree (device : Device) : Prop where
  unlimited : device.limit = none
  moves : device.Moves

theorem IsFree.write {device : Device} (free : device.IsFree) (bytes : List UInt8) :
    device.write bytes = (.ok (), device.take bytes) := by
  apply write_of_fits free.moves
  intro limit member
  cases free.unlimited.symm.trans member

theorem IsFree.take {device : Device} (free : device.IsFree) (bytes : List UInt8) :
    (device.take bytes).IsFree :=
  ⟨by rw [limit_take, free.unlimited]; rfl, free.moves⟩

def flushed (device : Device) : Device := { device with flushes := device.flushes + 1 }

def flushResult (device : Device) : Except Fault Unit :=
  match device.flushFault with
  | some (place, fault) => if device.flushes + 1 = place then .error fault else .ok ()
  | none => .ok ()

theorem flush_eq (device : Device) : device.flush = (device.flushResult, device.flushed) := by
  rcases device with ⟨chunk, limit, flushFault, flushes, taken⟩
  cases flushFault with
  | none => rfl
  | some failure =>
    obtain ⟨place, fault⟩ := failure
    simp only [flush, flushResult, flushed]
    split <;> rfl

/-- The device once a text has been printed as a whole and some flushes have been made. -/
def carried (device : Device) (text : String) (flushes : Nat) : Device :=
  { device.take (Text.encode text) with flushes := device.flushes + flushes }

theorem output_carried (device : Device) (text : String) (flushes : Nat) :
    (device.carried text flushes).output = device.output ++ Text.encode text :=
  output_take device (Text.encode text)

theorem carried_carried (device : Device) (first second : String) (flushes more : Nat) :
    (device.carried first flushes).carried second more =
      device.carried (first ++ second) (flushes + more) := by
  simp only [carried, take, Text.encode_append, List.reverse_append, List.append_assoc,
    Option.map_map, Function.comp_def, List.length_append, Nat.sub_sub, Nat.add_assoc]

/-- A write that fails has not taken all of the text. -/
theorem write_cases (device : Device) (bytes : List UInt8) :
    device.write bytes = (.ok (), device.take bytes) ∨
      ∃ fault shown, device.write bytes = (.error fault, device.take shown) ∧
        shown <+: bytes ∧ shown ≠ bytes := by
  fun_induction write device bytes with
  | case1 device => exact .inl (by rw [take_nil])
  | case2 device bytes nonempty fault =>
    exact .inr ⟨fault, [], by rw [take_nil], List.nil_prefix, Ne.symm nonempty⟩
  | case3 => exact .inl rfl
  | case4 device bytes nonempty =>
    exact .inr ⟨.nothingWritten, [], by rw [take_nil], List.nil_prefix, Ne.symm nonempty⟩
  | case5 device bytes _ _ count _ ih =>
    have whole := List.take_append_drop (count + 1) bytes
    rcases ih with all | ⟨fault, shown, written, isPrefix, isCut⟩
    · refine .inl ?_
      rw [all, take_take, whole]
    · refine .inr ⟨fault, bytes.take (count + 1) ++ shown, by rw [written, take_take], ?_, ?_⟩
      · have both := (List.prefix_append_right_inj (bytes.take (count + 1))).mpr isPrefix
        rwa [whole] at both
      · intro same
        rw [← whole, List.take_append_drop] at same
        exact isCut (List.append_cancel_left (same.trans whole.symm))

end Device

end Roshambo
