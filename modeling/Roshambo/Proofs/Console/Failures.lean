import Roshambo.Proofs.Console.Composed
import Roshambo.Proofs.Console.Deliveries
import Roshambo.Proofs.Console.Lines
import Roshambo.Proofs.Console.Writing

/-! # What an action does before it fails

Reads, writes and flushes may all fail in one action. `Went` is an account of what was done to the
console until the action ended, and `Ends` says why it ended: either nothing failed on the way, or
exactly one thing did, and that was the last thing done. The main statement is `Composed.accounts`,
which gives such an account of every composed action. A failed read is the last that was taken of
the input (`exists_trace_of_failure`); an interruption is taken in passing.
-/

namespace Roshambo

/-- Everything that happens in a delivery, interruptions included. -/
def Delivery.trace : Delivery → List Event
  | bytes data => data.map .byte
  | endMark => [.endMark]
  | fault problem => [.fault problem]

/-- A failed read that is not tried again. -/
def Event.failure? : Event → Option Fault
  | fault problem => if problem.isInterrupted then none else some problem
  | _ => none

/-- The failed reads among some events that are not tried again. -/
def failures (events : List Event) : List Fault := events.filterMap Event.failure?

theorem failures_append (first second : List Event) :
    failures (first ++ second) = failures first ++ failures second := List.filterMap_append

theorem failures_bytes (data : List UInt8) : failures (data.map .byte) = [] := by
  simp [failures, Event.failure?]

theorem failures_fault {fault : Fault} (lasting : fault.isInterrupted = false) :
    failures [.fault fault] = [fault] := by
  simp [failures, Event.failure?, lasting]

theorem mem_failures {fault : Fault} {events : List Event} :
    fault ∈ failures events ↔ .fault fault ∈ events ∧ fault.isInterrupted = false := by
  rw [failures, List.mem_filterMap]
  constructor
  · rintro ⟨event, within, failed⟩
    cases event with
    | byte | endMark => cases failed
    | fault problem =>
      simp only [Event.failure?] at failed
      split at failed
      · cases failed
      · next lasting =>
        cases failed
        exact ⟨within, Bool.eq_false_iff.mpr lasting⟩
  · rintro ⟨within, lasting⟩
    exact ⟨_, within, by simp [Event.failure?, lasting]⟩

/-- What is taken of the input for one result: no failed read, or one failed read at the very end,
which is the result. -/
inductive Meets {α : Type} : List Event → Except Fault α → Prop
  | nothing {piece : List Event} {value : α} (smooth : failures piece = []) :
      Meets piece (.ok value)
  | failure {front : List Event} {fault : Fault} (smooth : failures front = [])
      (lasting : fault.isInterrupted = false) : Meets (front ++ [.fault fault]) (.error fault)

theorem Meets.behind {α : Type} {front piece : List Event} {result : Except Fault α}
    (meets : Meets piece result) (smooth : failures front = []) :
    Meets (front ++ piece) result := by
  cases meets with
  | nothing rest => exact .nothing (by rw [failures_append, smooth, rest]; rfl)
  | failure rest lasting =>
    rw [← List.append_assoc]
    exact .failure (by rw [failures_append, smooth, rest]; rfl) lasting

namespace Script

/-- Everything that will happen on the input, byte by byte. -/
def trace (script : Script) : List Event := script.flatMap Delivery.trace

private theorem trace_cons (delivery : Delivery) (script : Script) :
    trace (delivery :: script) = delivery.trace ++ trace script := List.flatMap_cons

theorem readLineAfter_trace (taken : List UInt8) (script : Script) :
    ∃ piece, script.trace = piece ++ (readLineAfter taken script).2.trace ∧
      Meets piece (readLineAfter taken script).1 := by
  induction script generalizing taken with
  | nil => exact ⟨[], rfl, .nothing rfl⟩
  | cons delivery script ih =>
    rw [trace_cons]
    cases delivery with
    | endMark => exact ⟨[.endMark], rfl, .nothing rfl⟩
    | fault fault =>
      rw [readLineAfter]
      split
      · next interrupted =>
        obtain ⟨piece, whole, meets⟩ := ih taken
        refine ⟨[.fault fault] ++ piece, by rw [whole]; rfl, meets.behind ?_⟩
        simp [failures, Event.failure?, interrupted]
      · next lasting =>
        have meets : Meets ([] ++ [.fault fault]) (.error fault : Except Fault (List UInt8)) :=
          .failure rfl (Bool.eq_false_iff.mpr lasting)
        exact ⟨[.fault fault], rfl, meets⟩
    | bytes data =>
      rw [readLineAfter]
      split
      · next line left cut =>
        refine ⟨line.map .byte, ?_, .nothing (failures_bytes line)⟩
        rw [Delivery.trace, ← append_of_cutLine? cut, List.map_append, List.append_assoc]
        rfl
      · obtain ⟨piece, whole, meets⟩ := ih (taken ++ data)
        refine ⟨data.map .byte ++ piece, ?_, meets.behind (failures_bytes data)⟩
        rw [whole, List.append_assoc]
        rfl

/-- The next lines are read without failure. -/
def Smooth (script : Script) (count : Nat) : Prop :=
  ∀ place < count, ∃ bytes, script.line place = .ok bytes

theorem smooth_zero (script : Script) : script.Smooth 0 :=
  fun place before => absurd before (Nat.not_lt_zero place)

theorem Smooth.append {script : Script} {first second : Nat} (front : script.Smooth first)
    (back : (script.after first).Smooth second) : script.Smooth (first + second) := by
  intro place before
  by_cases early : place < first
  · exact front place early
  · obtain ⟨bytes, read⟩ := back (place - first) (by omega)
    rw [← line_add, Nat.add_sub_cancel' (Nat.le_of_not_lt early)] at read
    exact ⟨bytes, read⟩

theorem exists_trace_of_smooth {script : Script} {count : Nat} (smooth : script.Smooth count) :
    ∃ piece, script.trace = piece ++ (script.after count).trace ∧ failures piece = [] := by
  induction count generalizing script with
  | zero => exact ⟨[], rfl, rfl⟩
  | succ count ih =>
    obtain ⟨bytes, read⟩ := smooth 0 (Nat.succ_pos count)
    obtain ⟨front, whole, meets⟩ := readLineAfter_trace [] script
    have later : script.readLine.2.Smooth count := by
      intro place before
      exact smooth (place + 1) (by omega)
    obtain ⟨piece, rest, clean⟩ := ih later
    change (readLineAfter [] script).1 = .ok bytes at read
    rw [read] at meets
    cases meets with
    | nothing none =>
      refine ⟨front ++ piece, ?_, by rw [failures_append, none, clean]; rfl⟩
      rw [whole, List.append_assoc]
      exact congrArg (front ++ ·) rest

/-- Where a line cannot be read, the failed read is the last that was taken of the input. -/
theorem exists_trace_of_failure {script : Script} {count : Nat} {fault : Fault}
    (smooth : script.Smooth count) (failed : script.line count = .error fault) :
    ∃ front, script.trace = front ++ [.fault fault] ++ (script.after (count + 1)).trace ∧
      failures front = [] ∧ fault.isInterrupted = false := by
  obtain ⟨front, before, clean⟩ := exists_trace_of_smooth smooth
  obtain ⟨piece, whole, meets⟩ := readLineAfter_trace [] (script.after count)
  change (readLineAfter [] (script.after count)).1 = .error fault at failed
  rw [failed] at meets
  cases meets with
  | @failure middle _ rest lasting =>
    refine ⟨front ++ middle, ?_, by rw [failures_append, clean, rest]; rfl, lasting⟩
    rw [before, whole, after_add]
    simp only [List.append_assoc]
    rfl

end Script

namespace Device

/-- None of the next flushes is the one that is to fail. -/
def Steady (device : Device) (flushes : Nat) : Prop :=
  ∀ place fault, device.flushFault = some (place, fault) →
    place ≤ device.flushes ∨ device.flushes + flushes < place

theorem steady_zero (device : Device) : device.Steady 0 :=
  fun place _ _ => (Nat.lt_or_ge device.flushes place).symm

/-- What a device has used up between two of its states: some bytes, for all of which there was
room, and some flushes. -/
structure Spent (before : Device) (bytes flushes : Nat) (after : Device) : Prop where
  room : before.Fits bytes
  limit : after.limit = before.limit.map (·.spend bytes)
  chunk : after.chunk = before.chunk
  flushFault : after.flushFault = before.flushFault
  flushes : after.flushes = before.flushes + flushes

theorem spent_take {device : Device} {bytes : List UInt8} (fits : device.Fits bytes.length) :
    device.Spent bytes.length 0 (device.take bytes) := ⟨fits, rfl, rfl, rfl, rfl⟩

theorem spent_none (device : Device) (flushes : Nat) :
    device.Spent 0 flushes { device with flushes := device.flushes + flushes } :=
  ⟨fun _ _ => Nat.zero_le _, by cases device.limit <;> rfl, rfl, rfl, rfl⟩

theorem Spent.moves {before after : Device} {bytes flushes : Nat}
    (spent : before.Spent bytes flushes after) (moves : before.Moves) : after.Moves := by
  unfold Moves at moves ⊢
  rwa [spent.chunk]

theorem Spent.trans {before middle after : Device} {bytes flushes moreBytes moreFlushes : Nat}
    (first : before.Spent bytes flushes middle)
    (second : middle.Spent moreBytes moreFlushes after) :
    before.Spent (bytes + moreBytes) (flushes + moreFlushes) after where
  room := by
    intro limit member
    have early := first.room limit member
    have late := second.room (limit.spend bytes) (by
      rw [first.limit, Option.mem_def.mp member]
      rfl)
    rw [Limit.room_spend] at late
    omega
  limit := by
    rw [second.limit, first.limit, Option.map_map]
    simp only [Function.comp_def, Limit.spend_spend]
  chunk := second.chunk.trans first.chunk
  flushFault := second.flushFault.trans first.flushFault
  flushes := by rw [second.flushes, first.flushes, Nat.add_assoc]

theorem Steady.append {before after : Device} {bytes first second : Nat}
    (front : before.Steady first) (spent : before.Spent bytes first after)
    (back : after.Steady second) : before.Steady (first + second) := by
  intro place fault planned
  have early := front place fault planned
  have late := back place fault (spent.flushFault.trans planned)
  rw [spent.flushes] at late
  omega

end Device

/-- What was done between two states of a console: some bytes were written, the device was flushed
and lines were read, some number of times each. -/
structure Went (before : Console) (written : List UInt8) (flushes lines : Nat) (after : Console) :
    Prop where
  output : after.device.output = before.device.output ++ written
  device : before.device.Spent written.length flushes after.device
  input : after.input = before.input.after lines

theorem Went.trans {before middle after : Console} {written more : List UInt8}
    {flushes lines moreFlushes moreLines : Nat} (first : Went before written flushes lines middle)
    (second : Went middle more moreFlushes moreLines after) :
    Went before (written ++ more) (flushes + moreFlushes) (lines + moreLines) after where
  output := by rw [second.output, first.output, List.append_assoc]
  device := by
    rw [List.length_append]
    exact first.device.trans second.device
  input := by rw [second.input, first.input, Script.after_add]

/-- Why an action ended. It reports no fault if nothing failed; if it does, what failed was the last
of its kind, and nothing else failed. -/
inductive Ends {α : Type} (before : Console) (written : List UInt8) (flushes lines : Nat) :
    Except GameError α → Prop
  | undisturbed {result : Except GameError α} (own : ∀ fault, result ≠ .error (.io fault))
      (smooth : before.input.Smooth lines) (steady : before.device.Steady flushes) :
      Ends before written flushes lines result
  | read {count : Nat} {fault : Fault} (last : lines = count + 1)
      (smooth : before.input.Smooth count) (failed : before.input.line count = .error fault)
      (steady : before.device.Steady flushes) :
      Ends before written flushes lines (.error (.io fault))
  | write {limit : Limit} (present : limit ∈ before.device.limit)
      (full : written.length = limit.room) (smooth : before.input.Smooth lines)
      (steady : before.device.Steady flushes) :
      Ends before written flushes lines (.error (.io limit.reason))
  | flush {fault : Fault} (made : 0 < flushes)
      (planned : before.device.flushFault = some (before.device.flushes + flushes, fault))
      (smooth : before.input.Smooth lines) : Ends before written flushes lines (.error (.io fault))

section Ends

variable {α β : Type} {before middle : Console} {written more : List UInt8}
  {flushes lines moreFlushes moreLines : Nat}

/-- An action that succeeds has met no failure. -/
theorem Ends.of_ok {value : α} (ends : Ends before written flushes lines (.ok value)) :
    before.input.Smooth lines ∧ before.device.Steady flushes := by
  cases ends with
  | undisturbed _ smooth steady => exact ⟨smooth, steady⟩

/-- An action that fails may be the first of two. -/
theorem Ends.of_error {error : GameError}
    (ends : Ends before written flushes lines (.error error : Except GameError α)) :
    Ends before written flushes lines (.error error : Except GameError β) := by
  cases ends with
  | undisturbed own smooth steady =>
    refine .undisturbed (fun fault same => ?_) smooth steady
    cases same
    exact own fault rfl
  | read last smooth failed steady => exact .read last smooth failed steady
  | write present full smooth steady => exact .write present full smooth steady
  | flush made planned smooth => exact .flush made planned smooth

/-- The second of two actions may end the whole, if the first one met no failure. -/
theorem Ends.behind {result : Except GameError α}
    (ends : Ends middle more moreFlushes moreLines result)
    (went : Went before written flushes lines middle) (smooth : before.input.Smooth lines)
    (steady : before.device.Steady flushes) :
    Ends before (written ++ more) (flushes + moreFlushes) (lines + moreLines) result := by
  have allSteady (still : middle.device.Steady moreFlushes) :
      before.device.Steady (flushes + moreFlushes) := steady.append went.device still
  cases ends with
  | undisturbed own rest still =>
    rw [went.input] at rest
    exact .undisturbed own (smooth.append rest) (allSteady still)
  | @read count fault last rest failed still =>
    rw [went.input] at rest failed
    rw [← Script.line_add] at failed
    exact .read (by omega) (smooth.append rest) failed (allSteady still)
  | @write left present full rest still =>
    rw [went.device.limit] at present
    obtain ⟨limit, member, rfl⟩ := Option.map_eq_some_iff.mp present
    have room := went.device.room limit member
    rw [went.input] at rest
    rw [Limit.reason_spend]
    refine .write member ?_ (smooth.append rest) (allSteady still)
    rw [List.length_append, full, Limit.room_spend, Nat.add_sub_cancel' room]
  | flush made planned rest =>
    rw [went.device.flushFault, went.device.flushes] at planned
    rw [went.input] at rest
    refine .flush (by omega) ?_ (smooth.append rest)
    rw [← Nat.add_assoc]
    exact planned

end Ends

namespace Action

/-- An action on a device whose writes move can be accounted for. -/
def Accounts {α : Type} (action : Action α) : Prop :=
  ∀ console, console.device.Moves → ∃ written flushes lines,
    Went console written flushes lines (action console).2 ∧
      Ends console written flushes lines (action console).1

section Accounts

variable {α β : Type}

private theorem accounts_silent {console : Console} {result : Except GameError α}
    (log : List LogEntry) (own : ∀ fault, result ≠ .error (.io fault)) :
    ∃ written flushes lines, Went console written flushes lines { console with log } ∧
      Ends console written flushes lines result := by
  refine ⟨[], 0, 0, ⟨(List.append_nil _).symm, Device.spent_none _ 0, rfl⟩, ?_⟩
  exact .undisturbed own (Script.smooth_zero _) (Device.steady_zero _)

private theorem accounts_print (text : String) : (print text).Accounts := by
  intro console moves
  by_cases fits : console.device.Fits (Text.encode text).length
  · have whole : print text console =
        (.ok (), { console with device := console.device.take (Text.encode text) }) := by
      rw [print, Device.write_of_fits moves fits]
      rfl
    rw [whole]
    refine ⟨_, 0, 0, ⟨Device.output_take _ _, Device.spent_take fits, rfl⟩, ?_⟩
    exact .undisturbed (fun _ same => by cases same) (Script.smooth_zero _) (Device.steady_zero _)
  · obtain ⟨limit, present, exceeds⟩ := Device.exists_limit_of_not_fits fits
    have length : ((Text.encode text).take limit.room).length = limit.room := by
      rw [List.length_take]
      omega
    have room : console.device.Fits ((Text.encode text).take limit.room).length := by
      intro other member
      cases Option.some.inj (present.symm.trans member)
      exact Nat.le_of_eq length
    have whole : print text console = (.error (.io limit.reason),
        { console with device := console.device.take ((Text.encode text).take limit.room) }) := by
      rw [print, Device.write_of_exceeds moves present exceeds]
      rfl
    rw [whole]
    refine ⟨_, 0, 0, ⟨Device.output_take _ _, Device.spent_take room, rfl⟩, ?_⟩
    exact .write present length (Script.smooth_zero _) (Device.steady_zero _)

private theorem accounts_flush : flush.Accounts := by
  intro console _
  have whole : flush console = (console.device.flushResult.mapError .io,
      { console with device := console.device.flushed }) := by
    rw [flush, Device.flush_eq]
  rw [whole]
  refine ⟨[], 1, 0, ⟨(List.append_nil _).symm, Device.spent_none _ 1, rfl⟩, ?_⟩
  unfold Device.flushResult
  cases planned : console.device.flushFault with
  | none =>
    refine .undisturbed (fun _ same => by cases same) (Script.smooth_zero _) ?_
    intro place fault other
    rw [planned] at other
    cases other
  | some failure =>
    obtain ⟨place, fault⟩ := failure
    by_cases due : console.device.flushes + 1 = place
    · simp only [if_pos due]
      exact .flush Nat.one_pos (due ▸ planned) (Script.smooth_zero _)
    · simp only [if_neg due]
      refine .undisturbed (fun _ same => by cases same) (Script.smooth_zero _) ?_
      intro place' fault' other
      cases planned.symm.trans other
      omega

private theorem accounts_readLine : readLine.Accounts := by
  intro console _
  refine ⟨[], 0, 1, ⟨(List.append_nil _).symm, Device.spent_none _ 0, rfl⟩, ?_⟩
  have result : (readLine console).1 = (console.input.line 0).mapError .io := rfl
  rw [result]
  cases read : console.input.line 0 with
  | ok bytes =>
    refine .undisturbed (fun _ same => by cases same) ?_ (Device.steady_zero _)
    intro place before
    rw [Nat.lt_one_iff.mp before]
    exact ⟨bytes, read⟩
  | error fault =>
    exact .read (Nat.zero_add 1).symm (Script.smooth_zero _) read (Device.steady_zero _)

/-- Two actions in sequence: the account of the second goes on where that of the first stops. -/
theorem Accounts.bind {first : Action α} {next : α → Action β} (head : first.Accounts)
    (tail : ∀ value, (next value).Accounts) : (first >>= next).Accounts := by
  intro console moves
  obtain ⟨written, flushes, lines, went, ends⟩ := head console moves
  rw [bind_apply]
  rcases ended : first console with ⟨result, middle⟩
  rw [ended] at went ends
  cases result with
  | error error => exact ⟨written, flushes, lines, went, ends.of_error⟩
  | ok value =>
    obtain ⟨more, moreFlushes, moreLines, further, last⟩ :=
      tail value middle (went.device.moves moves)
    obtain ⟨smooth, steady⟩ := ends.of_ok
    exact ⟨_, _, _, went.trans further, last.behind went smooth steady⟩

/-- Every composed action can be accounted for. -/
theorem Composed.accounts {action : Action α} (composed : Composed action) : action.Accounts := by
  induction composed with
  | pure value => exact fun console _ => accounts_silent console.log fun _ same => by cases same
  | close => exact fun console _ => accounts_silent console.log fun _ same => by cases same
  | remark entries =>
    exact fun console _ => accounts_silent (console.log ++ entries) fun _ same => by cases same
  | print text => exact accounts_print text
  | flush => exact accounts_flush
  | readLine => exact accounts_readLine
  | bind _ _ head tail => exact head.bind tail
  | limit stage _ agree ih =>
    intro console moves
    rw [agree _ console (Nat.lt_succ_self _)]
    exact ih _ console moves

end Accounts

end Action

end Roshambo
