import Roshambo.Console.Fault

/-! # The output device

A device takes bytes. A single write may take only a few of them (`chunk`), a device may have room
for a limited number in all (`limit`), and one flush, counted from the first, may fail
(`flushFault`). `Device.write` goes on writing until a text has been taken or a write fails; a text
without bytes is taken by any device.
-/

namespace Roshambo

/-- How many more bytes a device has room for, and what it reports when there is none; no
interruption, which would be tried again for ever. -/
structure Limit where
  room : Nat
  fault : Option Fault
  not_interrupted : fault.all (fun fault => !fault.isInterrupted) = true

/-- Where the output goes. What has been taken is kept with the last byte first, so that each write
costs no more than what it adds. -/
structure Device where
  chunk : Option Nat
  limit : Option Limit
  flushFault : Option (Nat × Fault)
  flushes : Nat
  taken : List UInt8

namespace Device

def unlimited : Device := ⟨none, none, none, 0, []⟩

/-- The bytes that the device has taken, in the order in which they were written. -/
def output (device : Device) : List UInt8 := device.taken.reverse

/-- The most that a single write takes, if there is a bound. -/
def bound? (device : Device) : Option Nat :=
  match device.chunk, device.limit.map Limit.room with
  | none, room => room
  | chunk, none => chunk
  | some chunk, some room => some (min chunk room)

/-- What a write meets on a full device that gives a reason. -/
def refusal? (device : Device) : Option Fault :=
  device.limit.bind fun limit => if limit.room = 0 then limit.fault else none

def take (device : Device) (bytes : List UInt8) : Device :=
  { device with
    taken := bytes.reverse ++ device.taken
    limit := device.limit.map fun limit => { limit with room := limit.room - bytes.length } }

/-- Write some bytes, in as many single writes as it takes. -/
def write (device : Device) (bytes : List UInt8) : Except Fault Unit × Device :=
  if bytes = [] then (.ok (), device)
  else
    match device.refusal? with
    | some fault => (.error fault, device)
    | none =>
      match device.bound? with
      | none => (.ok (), device.take bytes)
      | some 0 => (.error .nothingWritten, device)
      | some (count + 1) => (device.take (bytes.take (count + 1))).write (bytes.drop (count + 1))
termination_by bytes.length
decreasing_by
  have : 0 < bytes.length := List.length_pos_iff.mpr ‹_›
  simp only [List.length_drop]
  omega

/-- Flush the device; the flush that is to fail does so once, whatever the fault. -/
def flush (device : Device) : Except Fault Unit × Device :=
  let device := { device with flushes := device.flushes + 1 }
  match device.flushFault with
  | some (place, fault) =>
    if device.flushes = place then (.error fault, device) else (.ok (), device)
  | none => (.ok (), device)

def cleared (device : Device) : Device := { device with taken := [] }

@[simp]
theorem output_take (device : Device) (bytes : List UInt8) :
    (device.take bytes).output = device.output ++ bytes := by
  simp [take, output]

end Device

end Roshambo
