import Roshambo.Json.Mismatched

/-! # Passing over a value

`skipValue` passes over any JSON value, however deep, without keeping it. The brackets that are
open are kept in a list, innermost first, so one loop serves all depths: `advance` does one move of
it, and each move leaves less to do (`advance_less`). Numbers of any size and surrogates in any
order will do here; a number that breaks off at the end of the text is malformed.
-/

namespace Roshambo.Json

inductive Frame where
  | array
  | object
deriving DecidableEq, Repr

def Frame.close : Frame → Char
  | array => ']'
  | object => '\x7d'

/-- What comes before a value in a frame: nothing in an array, a key and a colon in an object. -/
def Frame.skipKey : Frame → Reader Unit
  | array => pure ()
  | object => do
    mark '"'
    skipText
    mark ':'

def skipNumber : Reader Unit := do
  let _ ← readNumeral .malformed

def skipScalar : Reader Unit
  | [] => .error .truncated
  | '"' :: rest => skipText rest
  | 'n' :: rest => expect ['u', 'l', 'l'] rest
  | 't' :: rest => expect ['r', 'u', 'e'] rest
  | 'f' :: rest => expect ['a', 'l', 's', 'e'] rest
  | c :: rest => if beginsNumber c then skipNumber (c :: rest) else .error .malformed

/-- How far the loop has come: before a value, behind the opening bracket of a frame, or behind a
value. -/
inductive Stage where
  | value
  | opened (frame : Frame)
  | closed
deriving DecidableEq, Repr

/-- What the loop has to do: where it is, the frames around that place, and the text ahead. -/
structure Skipping where
  stage : Stage
  frames : List Frame
  input : List Char
deriving DecidableEq, Repr

namespace Skipping

/-- A value without frames around it has been passed. -/
def isDone (state : Skipping) : Bool := state.stage == .closed && state.frames.isEmpty

/-- Go on behind what a reader passes over. -/
def behind (reader : Reader Unit) (input : List Char) (stage : Stage) (frames : List Frame) :
    Except Problem Skipping :=
  match reader input with
  | .ok (_, rest) => .ok ⟨stage, frames, rest⟩
  | .error problem => .error problem

def advance (state : Skipping) : Except Problem Skipping :=
  match skipSpace state.input with
  | [] => .error .truncated
  | c :: rest =>
    match state.stage, state.frames with
    | .value, frames =>
      if c = '[' then .ok ⟨.opened .array, frames, rest⟩
      else if c = '\x7b' then .ok ⟨.opened .object, frames, rest⟩
      else behind skipScalar (c :: rest) .closed frames
    | .opened frame, frames =>
      if c = frame.close then .ok ⟨.closed, frames, rest⟩
      else behind frame.skipKey (c :: rest) .value (frame :: frames)
    | .closed, frame :: frames =>
      if c = ',' then behind frame.skipKey rest .value (frame :: frames)
      else if c = frame.close then .ok ⟨.closed, frames, rest⟩
      else .error .malformed
    | .closed, [] => .error .malformed

/-- What is left to do: twice the text ahead, and one more for a bracket just opened. -/
def work (state : Skipping) : Nat :=
  2 * state.input.length + (match state.stage with | .opened _ => 1 | _ => 0)

theorem behind_eq_ok {reader : Reader Unit} {input : List Char} {stage : Stage}
    {frames : List Frame} {next : Skipping} (moved : behind reader input stage frames = .ok next) :
    reader input = .ok ((), next.input) ∧ next.stage = stage ∧ next.frames = frames := by
  unfold behind at moved
  split at moved
  next read => cases moved; exact ⟨read, rfl, rfl⟩
  next => cases moved

theorem shrinks_skipKey (frame : Frame) : frame.skipKey.Shrinks := by
  cases frame with
  | array => exact Reader.shrinks_pure ()
  | object =>
    exact (consumes_mark '"').shrinks.bind fun _ =>
      consumes_skipText.shrinks.bind fun _ => (consumes_mark ':').shrinks

private theorem consumes_skipScalar : skipScalar.Consumes := by
  intro input rest value read
  unfold skipScalar at read
  split at read
  · cases read
  · exact Nat.lt_succ_of_lt (consumes_skipText read)
  · exact Nat.lt_succ_of_le (shrinks_expect _ read)
  · exact Nat.lt_succ_of_le (shrinks_expect _ read)
  · exact Nat.lt_succ_of_le (shrinks_expect _ read)
  · split at read
    · exact ((consumes_readNumeral .malformed).bind fun _ => Reader.shrinks_pure ()) read
    · cases read

/-- Each move leaves less to do. -/
theorem advance_less {state next : Skipping} (moved : state.advance = .ok next) :
    next.work < state.work := by
  have ahead := skipSpace_length_le state.input
  rcases state with ⟨stage, frames, input⟩
  simp only [advance] at moved
  split at moved
  · cases moved
  next c rest front =>
    simp only [front, List.length_cons] at ahead
    cases stage with
    | value =>
      simp only at moved
      split at moved
      · cases moved
        simp only [work]
        omega
      split at moved
      · cases moved
        simp only [work]
        omega
      · obtain ⟨read, same, _⟩ := behind_eq_ok moved
        have shorter := consumes_skipScalar read
        simp only [List.length_cons] at shorter
        simp only [work, same]
        omega
    | opened frame =>
      simp only at moved
      split at moved
      · cases moved
        simp only [work]
        omega
      · obtain ⟨read, same, _⟩ := behind_eq_ok moved
        have shorter := shrinks_skipKey frame read
        simp only [List.length_cons] at shorter
        simp only [work, same]
        omega
    | closed =>
      cases frames with
      | nil => cases moved
      | cons frame frames =>
        simp only at moved
        split at moved
        · obtain ⟨read, same, _⟩ := behind_eq_ok moved
          have shorter := shrinks_skipKey frame read
          simp only [work, same]
          omega
        split at moved
        · cases moved
          simp only [work]
          omega
        · cases moved

def finish (state : Skipping) : Except Problem (Unit × List Char) :=
  if state.isDone then .ok ((), state.input)
  else
    match _ : state.advance with
    | .ok next => finish next
    | .error problem => .error problem
termination_by state.work
decreasing_by exact advance_less ‹_›

private theorem finish_work_le {state : Skipping} {rest : List Char}
    (finished : state.finish = .ok ((), rest)) : 2 * rest.length ≤ state.work := by
  fun_induction finish state with
  | case1 state _ =>
    cases finished
    simp only [work]
    omega
  | case2 state _ next moved ih =>
    have less := advance_less moved
    have left := ih finished
    omega
  | case3 => cases finished

end Skipping

def skipValue : Reader Unit := fun input => Skipping.finish ⟨.value, [], input⟩

theorem shrinks_skipValue : skipValue.Shrinks := by
  intro input rest value read
  have left := Skipping.finish_work_le read
  simp only [Skipping.work] at left
  omega

end Roshambo.Json
