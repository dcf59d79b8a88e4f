import Roshambo.Console.Script

/-! # Scripts that deliver the same

`Redelivers` relates two scripts that bring the same bytes, end marks and faults in the same order,
in deliveries cut at other places, with empty ones between them and interruptions anywhere. What
such scripts have in common are their events, byte by byte and without the interruptions, and the
events alone decide what a line is and what is left behind it (`readLine_events`).
-/

namespace Roshambo

inductive Event where
  | byte (byte : UInt8)
  | endMark
  | fault (fault : Fault)

/-- The events of a delivery. An interruption is none, since it makes no difference. -/
def Delivery.events : Delivery → List Event
  | bytes data => data.map .byte
  | endMark => [.endMark]
  | fault problem => if problem.isInterrupted then [] else [.fault problem]

namespace Script

def events (script : Script) : List Event := script.flatMap Delivery.events

/-- The same bytes, end marks and faults in the same order, delivered in another way. -/
inductive Redelivers : Script → Script → Prop
  | refl (script : Script) : Redelivers script script
  | symm {first second : Script} : Redelivers first second → Redelivers second first
  | trans {first second third : Script} :
      Redelivers first second → Redelivers second third → Redelivers first third
  | split (front : Script) (left right : List UInt8) (back : Script) :
      Redelivers (front ++ .bytes (left ++ right) :: back)
        (front ++ .bytes left :: .bytes right :: back)
  | empty (front back : Script) : Redelivers (front ++ back) (front ++ .bytes [] :: back)
  | interruption (front : Script) {fault : Fault} (interrupted : fault.isInterrupted = true)
      (back : Script) : Redelivers (front ++ back) (front ++ .fault fault :: back)

theorem events_append (front back : Script) :
    events (front ++ back) = events front ++ events back :=
  List.flatMap_append

theorem events_cons (delivery : Delivery) (script : Script) :
    events (delivery :: script) = delivery.events ++ events script := List.flatMap_cons

/-- The way in which events are delivered is no event. -/
theorem Redelivers.events_eq {first second : Script} (same : Redelivers first second) :
    events first = events second := by
  induction same with
  | refl => rfl
  | symm _ ih => exact ih.symm
  | trans _ _ left right => exact left.trans right
  | split front left right back =>
    simp only [events_append, events_cons, Delivery.events, List.map_append, List.append_assoc]
  | empty front back => rw [events_append, events_append, events_cons]; rfl
  | interruption front interrupted back =>
    simp only [events_append, events_cons, Delivery.events, interrupted, ↓reduceIte,
      List.nil_append]

/-- The line at the front of some events, behind the bytes of it that have been taken already, and
the events that are left. -/
def cutEvents (taken : List UInt8) : List Event → Except Fault (List UInt8) × List Event
  | [] => (.ok taken, [])
  | .endMark :: rest => (.ok taken, rest)
  | .fault fault :: rest => (.error fault, rest)
  | .byte byte :: rest =>
    if byte = lineFeed then (.ok (taken ++ [byte]), rest) else cutEvents (taken ++ [byte]) rest

private theorem cutEvents_of_cutLine?_some {data line left : List UInt8} (taken : List UInt8)
    (rest : List Event) (cut : cutLine? data = some (line, left)) :
    cutEvents taken (data.map .byte ++ rest) = (.ok (taken ++ line), left.map .byte ++ rest) := by
  induction data generalizing taken line with
  | nil => cases cut
  | cons byte data ih =>
    rw [cutLine?] at cut
    rw [List.map_cons, List.cons_append, cutEvents]
    split at cut
    · next feed =>
      cases cut
      rw [if_pos feed]
    · next other =>
      obtain ⟨⟨tail, remaining⟩, found, same⟩ := Option.map_eq_some_iff.mp cut
      cases same
      rw [if_neg other, ih _ found, List.append_assoc]
      rfl

private theorem cutEvents_of_cutLine?_none {data : List UInt8} (taken : List UInt8)
    (rest : List Event) (uncut : cutLine? data = none) :
    cutEvents taken (data.map .byte ++ rest) = cutEvents (taken ++ data) rest := by
  induction data generalizing taken with
  | nil => rw [List.map_nil, List.nil_append, List.append_nil]
  | cons byte data ih =>
    rw [cutLine?] at uncut
    rw [List.map_cons, List.cons_append, cutEvents]
    split at uncut
    · cases uncut
    · next other =>
      rw [if_neg other, ih _ (Option.map_eq_none_iff.mp uncut), List.append_assoc]
      rfl

/-- A line and what is left behind it are decided by the events. -/
theorem readLineAfter_events (taken : List UInt8) (script : Script) :
    ((readLineAfter taken script).1, (readLineAfter taken script).2.events) =
      cutEvents taken script.events := by
  induction script generalizing taken with
  | nil => rfl
  | cons delivery script ih =>
    rw [events_cons]
    cases delivery with
    | endMark => rfl
    | fault fault =>
      rw [readLineAfter, Delivery.events]
      split
      · exact ih taken
      · rfl
    | bytes data =>
      rw [readLineAfter, Delivery.events]
      split
      · next line left cut =>
        rw [cutEvents_of_cutLine?_some taken _ cut, events_cons]
        rfl
      · next uncut =>
        rw [cutEvents_of_cutLine?_none taken _ uncut]
        exact ih (taken ++ data)

theorem readLine_events {first second : Script} (same : first.events = second.events) :
    first.readLine.1 = second.readLine.1 ∧
      first.readLine.2.events = second.readLine.2.events := by
  have left := readLineAfter_events [] first
  have right := readLineAfter_events [] second
  rw [same] at left
  exact Prod.mk.inj (left.trans right.symm)

def eventBytes : List Event → Nat
  | [] => 0
  | .byte _ :: rest => eventBytes rest + 1
  | _ :: rest => eventBytes rest

private theorem eventBytes_append (first second : List Event) :
    eventBytes (first ++ second) = eventBytes first + eventBytes second := by
  induction first with
  | nil => exact (Nat.zero_add _).symm
  | cons event first ih =>
    cases event with
    | byte =>
      simp only [List.cons_append, eventBytes, ih]
      omega
    | endMark | fault => exact ih

theorem eventBytes_events (script : Script) : eventBytes script.events = script.byteCount := by
  have whole (data : List UInt8) : eventBytes (data.map .byte) = data.length := by
    induction data with
    | nil => rfl
    | cons byte data ih => simp only [List.map_cons, eventBytes, List.length_cons, ih]
  induction script with
  | nil => rfl
  | cons delivery script ih =>
    rw [events_cons, eventBytes_append, ih]
    cases delivery with
    | bytes data => rw [Delivery.events, whole, byteCount]
    | endMark => exact Nat.zero_add _
    | fault fault => rw [Delivery.events]; split <;> exact Nat.zero_add _

end Script

end Roshambo
