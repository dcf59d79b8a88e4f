import Mathlib.Tactic.Choose
import Roshambo.Proofs.Console.Lines

/-! # How a line is cut from a script

A reading of a line takes the front of a script and leaves the rest. `Cut` says what the front is in
each of the four ways in which a reading can end: with a line feed, at an end mark, where the script
is used up, or with a failed read. No more than one delivery of bytes is split, and nothing behind
the place of the cut has a say in it. Every script is cut in some way, and that is what `readLine`
does; so the lines of a script, along with the bytes that are dropped where a read fails, are the
bytes of the script, each of them once and in its place (`lines_cut`).
-/

namespace Roshambo

def Delivery.data : Delivery → List UInt8
  | bytes data => data
  | endMark => []
  | fault _ => []

/-- What a reading of a line goes on behind: bytes with no line feed among them, or a failed read
that is tried again. -/
inductive Delivery.Passed : Delivery → Prop
  | bytes {data : List UInt8} (unfed : lineFeed ∉ data) : Passed (.bytes data)
  | interruption {fault : Fault} (interrupted : fault.isInterrupted = true) : Passed (.fault fault)

private theorem cutLine?_of_not_mem {data : List UInt8} (unfed : lineFeed ∉ data) :
    cutLine? data = none := by
  induction data with
  | nil => rfl
  | cons byte data ih =>
    obtain ⟨other, later⟩ := not_or.mp (mt List.mem_cons.mpr unfed)
    rw [cutLine?, if_neg (Ne.symm other), ih later]
    rfl

private theorem cutLine?_append {left : List UInt8} (unfed : lineFeed ∉ left) (right : List UInt8) :
    cutLine? (left ++ lineFeed :: right) = some (left ++ [lineFeed], right) := by
  induction left with
  | nil => rfl
  | cons byte left ih =>
    obtain ⟨other, later⟩ := not_or.mp (mt List.mem_cons.mpr unfed)
    rw [List.cons_append, cutLine?, if_neg (Ne.symm other), ih later]
    rfl

namespace Script

def bytes (script : Script) : List UInt8 := script.flatMap Delivery.data

theorem bytes_cons (delivery : Delivery) (script : Script) :
    bytes (delivery :: script) = delivery.data ++ script.bytes := List.flatMap_cons

theorem bytes_append (front back : Script) : bytes (front ++ back) = front.bytes ++ back.bytes :=
  List.flatMap_append

/-- A front of a script in which no line ends. -/
def Unbroken (front : Script) : Prop := ∀ delivery ∈ front, delivery.Passed

theorem unbroken_nil : Unbroken [] := fun _ within => absurd within List.not_mem_nil

theorem Unbroken.cons {delivery : Delivery} {front : Script} (passed : delivery.Passed)
    (unbroken : front.Unbroken) : Unbroken (delivery :: front) :=
  List.forall_mem_cons.mpr ⟨passed, unbroken⟩

/-- How a reading of a line cuts a script: what it takes, how it ends, and what it leaves. -/
inductive Cut : (script taken : Script) → Except Fault (List UInt8) → (rest : Script) → Prop
  /-- A line ends with its line feed; what stands behind that in the same delivery is left. -/
  | fed {front back : Script} {left : List UInt8} (right : List UInt8) (unbroken : front.Unbroken)
      (unfed : lineFeed ∉ left) :
      Cut (front ++ .bytes (left ++ lineFeed :: right) :: back)
        (front ++ [.bytes (left ++ [lineFeed])]) (.ok (front.bytes ++ left ++ [lineFeed]))
        (.bytes right :: back)
  /-- A line ends at an end mark, which goes with it. -/
  | marked {front : Script} (rest : Script) (unbroken : front.Unbroken) :
      Cut (front ++ .endMark :: rest) (front ++ [.endMark]) (.ok front.bytes) rest
  /-- A line ends with the script. -/
  | exhausted {script : Script} (unbroken : script.Unbroken) :
      Cut script script (.ok script.bytes) []
  /-- A read fails for good, and the bytes taken before it are dropped. -/
  | failed {front : Script} {fault : Fault} (rest : Script) (unbroken : front.Unbroken)
      (lasting : fault.isInterrupted = false) :
      Cut (front ++ .fault fault :: rest) (front ++ [.fault fault]) (.error fault) rest

/-- A front in which no line ends is read through. -/
theorem readLineAfter_append (taken : List UInt8) {front : Script} (unbroken : front.Unbroken)
    (back : Script) :
    readLineAfter taken (front ++ back) = readLineAfter (taken ++ front.bytes) back := by
  induction front generalizing taken with
  | nil => rw [List.nil_append, bytes, List.flatMap_nil, List.append_nil]
  | cons delivery front ih =>
    obtain ⟨passed, later⟩ := List.forall_mem_cons.mp unbroken
    rw [List.cons_append, bytes_cons, ← List.append_assoc]
    cases passed with
    | bytes unfed =>
      rw [readLineAfter, cutLine?_of_not_mem unfed]
      exact ih _ later
    | interruption interrupted =>
      rw [readLineAfter, if_pos interrupted, Delivery.data, List.append_nil]
      exact ih _ later

section Cut

variable {script taken rest : Script} {result : Except Fault (List UInt8)}

theorem Cut.readLine_eq (cut : script.Cut taken result rest) :
    script.readLine = (result, rest) := by
  rw [readLine]
  cases cut with
  | fed right unbroken unfed =>
    rw [readLineAfter_append [] unbroken, readLineAfter, cutLine?_append unfed, List.nil_append,
      List.append_assoc]
  | marked rest unbroken => rw [readLineAfter_append [] unbroken, readLineAfter, List.nil_append]
  | exhausted unbroken =>
    have whole := readLineAfter_append [] unbroken []
    rwa [List.append_nil, readLineAfter, List.nil_append] at whole
  | failed rest unbroken lasting =>
    rw [readLineAfter_append [] unbroken, readLineAfter, if_neg (Bool.eq_false_iff.mp lasting)]

/-- A delivery in which no line ends stays with the line behind it. -/
theorem Cut.behind {delivery : Delivery} (passed : delivery.Passed)
    (cut : script.Cut taken result rest) :
    Cut (delivery :: script) (delivery :: taken) (result.map (delivery.data ++ ·)) rest := by
  cases cut with
  | @fed front back left right unbroken unfed =>
    have later : Cut (delivery :: front ++ .bytes (left ++ lineFeed :: right) :: back) _ _ _ :=
      .fed right (unbroken.cons passed) unfed
    rwa [bytes_cons, List.append_assoc delivery.data, List.append_assoc delivery.data] at later
  | marked rest unbroken =>
    have later := Cut.marked rest (unbroken.cons passed)
    rwa [bytes_cons] at later
  | exhausted unbroken =>
    have later := Cut.exhausted (unbroken.cons passed)
    rwa [bytes_cons] at later
  | failed rest unbroken lasting => exact .failed rest (unbroken.cons passed) lasting

/-- Every script is cut in some way. -/
theorem exists_cut (script : Script) : ∃ taken result rest, script.Cut taken result rest := by
  induction script with
  | nil => exact ⟨[], _, [], .exhausted unbroken_nil⟩
  | cons delivery script ih =>
    obtain ⟨taken, result, rest, later⟩ := ih
    cases delivery with
    | bytes data =>
      by_cases feed : lineFeed ∈ data
      · obtain ⟨left, right, rfl, unfed⟩ := List.eq_append_cons_of_mem feed
        exact ⟨_, _, _, .fed right unbroken_nil unfed⟩
      · exact ⟨_, _, _, later.behind (.bytes feed)⟩
    | endMark => exact ⟨_, _, _, .marked script unbroken_nil⟩
    | fault fault =>
      cases kind : fault.isInterrupted with
      | true => exact ⟨_, _, _, later.behind (.interruption kind)⟩
      | false => exact ⟨_, _, _, .failed script unbroken_nil kind⟩

theorem readLine_eq_iff :
    script.readLine = (result, rest) ↔ ∃ taken, script.Cut taken result rest := by
  constructor
  · intro read
    obtain ⟨taken, other, left, cut⟩ := script.exists_cut
    cases cut.readLine_eq.symm.trans read
    exact ⟨taken, cut⟩
  · rintro ⟨taken, cut⟩
    exact cut.readLine_eq

/-- The bytes that a reading takes: its line, or those that are dropped where it fails. -/
def lineOrLoss (taken : Script) : Except Fault (List UInt8) → List UInt8
  | .ok line => line
  | .error _ => taken.bytes

private theorem Cut.bytes_eq (cut : script.Cut taken result rest) :
    lineOrLoss taken result ++ rest.bytes = script.bytes := by
  cases cut with
  | fed => simp [lineOrLoss, bytes_append, bytes_cons, Delivery.data]
  | marked => simp [lineOrLoss, bytes_append, bytes_cons, Delivery.data]
  | exhausted => exact List.append_nil _
  | failed => simp [lineOrLoss, bytes, Delivery.data]

/-- A reading leaves fewer deliveries, or as many with fewer bytes. -/
private theorem Cut.size_lt (cut : script.Cut taken result rest) (more : script ≠ []) :
    rest.length + rest.bytes.length < script.length + script.bytes.length := by
  cases cut with
  | fed | marked | failed =>
    simp only [bytes_append, bytes_cons, Delivery.data, List.length_append, List.length_cons]
    omega
  | exhausted =>
    have positive := List.length_pos_iff.mpr more
    simp only [bytes, List.flatMap_nil, List.length_nil]
    omega

end Cut

private theorem after_succ (script : Script) (place : Nat) :
    script.after (place + 1) = (script.after place).readLine.2 := after_add place 1 script

/-- Reading line after line uses a script up. -/
theorem exists_after_eq_nil (script : Script) : ∃ count, script.after count = [] := by
  generalize bound : script.length + script.bytes.length = size
  induction size using Nat.strongRecOn generalizing script with
  | ind size ih =>
    by_cases done : script = []
    · exact ⟨0, done⟩
    · obtain ⟨taken, result, rest, cut⟩ := script.exists_cut
      have less := cut.size_lt done
      obtain ⟨count, used⟩ := ih _ (by omega) rest rfl
      refine ⟨count + 1, ?_⟩
      rw [after, cut.readLine_eq]
      exact used

/-- Readings cut a script without loss, overlap or look-ahead: the lines, and what is dropped where
a read fails, make up all the bytes in their order. -/
theorem lines_cut (script : Script) :
    (∀ result rest, script.readLine = (result, rest) ↔ ∃ taken, script.Cut taken result rest) ∧
      ∃ taken : Nat → Script,
        -- Each line is cut from what the one before it has left.
        (∀ place, (script.after place).Cut (taken place) (script.line place)
          (script.after (place + 1))) ∧
        (∀ count, (List.range count).flatMap
            (fun place => lineOrLoss (taken place) (script.line place)) ++
              (script.after count).bytes = script.bytes) ∧
        ∃ count, script.after count = [] ∧
          (List.range count).flatMap (fun place => lineOrLoss (taken place) (script.line place)) =
            script.bytes := by
  have reads (place : Nat) : ∃ taken, (script.after place).Cut taken (script.line place)
      (script.after (place + 1)) := by
    rw [← readLine_eq_iff, after_succ]
    rfl
  choose taken cuts using reads
  have whole (count : Nat) : (List.range count).flatMap
      (fun place => lineOrLoss (taken place) (script.line place)) ++ (script.after count).bytes =
        script.bytes := by
    induction count with
    | zero => rfl
    | succ count ih =>
      rw [List.range_succ, List.flatMap_append, List.flatMap_singleton, List.append_assoc,
        (cuts count).bytes_eq, ih]
  obtain ⟨count, used⟩ := script.exists_after_eq_nil
  refine ⟨fun result rest => readLine_eq_iff, taken, cuts, whole, count, used, ?_⟩
  have all := whole count
  rwa [used, bytes, List.flatMap_nil, List.append_nil] at all

/-- A line, a failed read in the midst of the next one, a line in two pieces, and an end mark. -/
example :
    let script : Script := [.bytes [97, 10, 98], .fault ⟨.timedOut, none⟩, .bytes [99],
      .fault ⟨.interrupted, none⟩, .bytes [100, 10, 101], .endMark]
    (List.range 5).map (fun place => script.line place) =
      [.ok [97, 10], .error ⟨.timedOut, none⟩, .ok [99, 100, 10], .ok [101], .ok []] := rfl

end Script

end Roshambo
