import Roshambo.Console.Fault

/-! # Input as a script of deliveries

The input of a console is a list of deliveries: some bytes, a mark where the input ends for one
read, or a failed read. When the list is used up the input has ended for good. `readLine` takes one
line: everything up to and including the next line feed, however the bytes are spread over
deliveries, or what there is before an end mark. An interrupted read is tried again; any other
failed read is the answer, and the bytes of the line taken before it are gone. A line that was read
is what the script is shorter by (`readLine_ok_length`).
-/

namespace Roshambo

/-- One thing that happens on the input. -/
inductive Delivery where
  | bytes (data : List UInt8)
  | endMark
  | fault (fault : Fault)
deriving DecidableEq, Repr

abbrev Script := List Delivery

def lineFeed : UInt8 := 10

/-- The bytes up to and including the first line feed, and those behind it. -/
def cutLine? : List UInt8 → Option (List UInt8 × List UInt8)
  | [] => none
  | byte :: rest =>
    if byte = lineFeed then some ([byte], rest)
    else (cutLine? rest).map fun (line, left) => (byte :: line, left)

theorem append_of_cutLine? {data line left : List UInt8} (cut : cutLine? data = some (line, left)) :
    line ++ left = data := by
  induction data generalizing line left with
  | nil => cases cut
  | cons byte rest ih =>
    rw [cutLine?] at cut
    split at cut
    · cases cut
      rfl
    · obtain ⟨⟨tail, remaining⟩, found, same⟩ := Option.map_eq_some_iff.mp cut
      cases same
      exact congrArg (byte :: ·) (ih found)

namespace Script

def byteCount : Script → Nat
  | [] => 0
  | .bytes data :: rest => data.length + byteCount rest
  | _ :: rest => byteCount rest

/-- Read on in a line of which some bytes have been taken already. -/
def readLineAfter (taken : List UInt8) : Script → Except Fault (List UInt8) × Script
  | [] => (.ok taken, [])
  | .endMark :: rest => (.ok taken, rest)
  | .fault fault :: rest =>
    if fault.isInterrupted then readLineAfter taken rest else (.error fault, rest)
  | .bytes data :: rest =>
    match cutLine? data with
    | some (line, left) => (.ok (taken ++ line), .bytes left :: rest)
    | none => readLineAfter (taken ++ data) rest

/-- Read one line; no bytes at all mean that the input was closed. -/
def readLine (script : Script) : Except Fault (List UInt8) × Script := readLineAfter [] script

private theorem readLineAfter_ok_length {taken line : List UInt8} {script rest : Script}
    (read : readLineAfter taken script = (.ok line, rest)) :
    line.length + rest.byteCount = taken.length + script.byteCount := by
  induction script generalizing taken with
  | nil => cases read; rfl
  | cons delivery script ih =>
    cases delivery with
    | endMark => cases read; rfl
    | fault fault =>
      rw [readLineAfter] at read
      split at read
      · exact ih read
      · cases read
    | bytes data =>
      rw [readLineAfter] at read
      split at read
      next found left cut =>
        cases read
        have whole := congrArg List.length (append_of_cutLine? cut)
        simp only [List.length_append] at whole
        simp only [byteCount, List.length_append]
        omega
      next =>
        have total := ih read
        simp only [byteCount, List.length_append] at total ⊢
        omega

/-- The bytes of a line that was read are exactly those that the script has lost. -/
theorem readLine_ok_length {line : List UInt8} {script rest : Script}
    (read : readLine script = (.ok line, rest)) :
    line.length + rest.byteCount = script.byteCount := by
  simpa using readLineAfter_ok_length read

end Script

end Roshambo
