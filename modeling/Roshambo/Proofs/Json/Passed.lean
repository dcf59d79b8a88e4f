import Roshambo.Proofs.Json.Nesting
import Roshambo.Proofs.Json.Taken

/-! # What the loop over open brackets has passed

Behind a value the loop still has to come to the end of every bracket that is open. `Closes`
describes the texts that do so, and `Ends` what a run from any place on has taken before it came to
its end; each move of the loop keeps it. At the outermost value nothing is open, and so
`skipValue_takes` says that what is passed over is one value of the grammar.
-/

namespace Roshambo.Json

private theorem skipKey_takes (frame : Frame) :
    frame.skipKey.Takes fun _ => Indented frame.Label := by
  intro input rest _ read
  cases frame with
  | array =>
    cases read
    exact ⟨[], ⟨[], [], by decide, .none, rfl⟩, rfl⟩
  | object =>
    obtain ⟨_, _, _, ⟨before, _, isBefore, rfl, rfl⟩, behindQuote, rfl⟩ :=
      (mark_takes _).bind_eq_ok read
    obtain ⟨_, _, _, ⟨text, written, spells, rfl⟩, behindKey, rfl⟩ :=
      skipText_takes.bind_eq_ok behindQuote
    obtain ⟨_, ⟨gap, _, isGap, rfl, rfl⟩, rfl⟩ := mark_takes _ behindKey
    refine ⟨_, ⟨before, _, isBefore, .key spells isGap, rfl⟩, ?_⟩
    simp only [List.append_assoc, List.cons_append, List.nil_append]

/-- The texts that end all open frames behind a value: in each of them either the frame is closed
at once, or more items follow behind a comma. -/
inductive Closes : List Frame → List Char → Prop
  | done : Closes [] []
  | close {frame : Frame} {frames : List Frame} {gap outer : List Char} (isGap : IsGap gap)
      (closes : Closes frames outer) : Closes (frame :: frames) (gap ++ frame.close :: outer)
  | more {frame : Frame} {frames : List Frame} {gap items outer : List Char} (isGap : IsGap gap)
      (inside : Written (.items frame) items) (closes : Closes frames outer) :
      Closes (frame :: frames) (gap ++ ',' :: (items ++ frame.close :: outer))

namespace Skipping

/-- What has been taken when the loop comes to its end from some place. -/
inductive Ends : Stage → List Frame → List Char → Prop
  | value {frames : List Frame} {gap value text : List Char} (isGap : IsGap gap)
      (valued : Written .value value) (closes : Closes frames text) :
      Ends .value frames (gap ++ (value ++ text))
  | empty {frame : Frame} {frames : List Frame} {gap text : List Char} (isGap : IsGap gap)
      (closes : Closes frames text) : Ends (.opened frame) frames (gap ++ frame.close :: text)
  | filled {frame : Frame} {frames : List Frame} {items text : List Char}
      (inside : Written (.items frame) items) (closes : Closes frames text) :
      Ends (.opened frame) frames (items ++ frame.close :: text)
  | closed {frames : List Frame} {text : List Char} (closes : Closes frames text) :
      Ends .closed frames text

variable {frame : Frame} {frames : List Frame} {gap input taken : List Char}

/-- A bracket that has just been opened begins a value. -/
theorem Ends.opening (isGap : IsGap gap) (ends : Ends (.opened frame) frames taken) :
    Ends .value frames (gap ++ frame.opening :: taken) := by
  cases ends with
  | @empty _ _ inside text isInside closes =>
    have whole := Ends.value isGap (.empty frame isInside) closes
    simpa only [List.append_assoc, List.cons_append, List.nil_append] using whole
  | @filled _ _ items text inside closes =>
    have whole := Ends.value isGap (.filled inside) closes
    simpa only [List.append_assoc, List.cons_append, List.nil_append] using whole

/-- A run behind the label of an item, seen from before the item: what it takes are items up to the
bracket that closes their frame. -/
theorem Ends.items {before label : List Char} (isBefore : IsGap before)
    (labelled : frame.Label label) (ends : Ends .value (frame :: frames) taken) :
    ∃ items outer, Written (.items frame) items ∧ Closes frames outer ∧
      before ++ (label ++ taken) = items ++ frame.close :: outer := by
  cases ends with
  | @value _ between value _ isBetween valued closes =>
    cases closes with
    | @close _ _ after outer isAfter closes =>
      refine ⟨_, outer, .last (.item isBefore labelled isBetween valued isAfter), closes, ?_⟩
      simp only [List.append_assoc]
    | @more _ _ after others outer isAfter inside closes =>
      have first := Written.item isBefore labelled isBetween valued isAfter
      refine ⟨_, outer, .more first inside, closes, ?_⟩
      simp only [List.append_assoc, List.cons_append]

theorem behind_takes {reader : Reader Unit} {texts : Unit → List Char → Prop}
    (takes : reader.Takes texts) {stage : Stage} {next : Skipping}
    (moved : behind reader input stage frames = .ok next) :
    ∃ text, texts () text ∧ input = text ++ next.input ∧ next.stage = stage ∧
      next.frames = frames := by
  obtain ⟨read, isStage, areFrames⟩ := behind_eq_ok moved
  obtain ⟨text, isText, whole⟩ := takes read
  exact ⟨text, isText, whole, isStage, areFrames⟩

/-- A run behind what was passed over in front of an item, seen from before the item. -/
theorem Ends.behind {next : Skipping} {rest : List Char} (isGap : IsGap gap)
    (moved : Skipping.behind frame.skipKey input .value (frame :: frames) = .ok next)
    (ends : Ends next.stage next.frames taken) (whole : next.input = taken ++ rest) :
    ∃ items outer, Written (.items frame) items ∧ Closes frames outer ∧
      gap ++ input = (items ++ frame.close :: outer) ++ rest := by
  obtain ⟨_, ⟨before, label, isBefore, labelled, rfl⟩, front, isStage, areFrames⟩ :=
    behind_takes (skipKey_takes frame) moved
  rw [isStage, areFrames] at ends
  obtain ⟨items, outer, inside, closes, same⟩ := ends.items (isGap.append isBefore) labelled
  refine ⟨items, outer, inside, closes, ?_⟩
  rw [← same, front, whole]
  simp only [List.append_assoc]

/-- A run that goes on behind one move is a run from the place of the move. -/
theorem Ends.advance {state next : Skipping} {rest : List Char} (moved : state.advance = .ok next)
    (ends : Ends next.stage next.frames taken) (whole : next.input = taken ++ rest) :
    ∃ taken, Ends state.stage state.frames taken ∧ state.input = taken ++ rest := by
  obtain ⟨stage, frames, input⟩ := state
  obtain ⟨gap, isGap, front⟩ := exists_skipSpace input
  -- An item is entered behind an opening bracket, with the gap before it, and behind a comma.
  have noGap : IsGap [] := by decide
  simp only [Skipping.advance] at moved
  split at moved
  · cases moved
  next c ahead first =>
  rw [first] at front
  cases stage with
  | value =>
    simp only at moved
    split at moved
    · next isArray =>
      cases moved
      refine ⟨_, ends.opening isGap, ?_⟩
      rw [front, isArray, show ahead = _ from whole, List.append_assoc]
      rfl
    split at moved
    · next isObject =>
      cases moved
      refine ⟨_, ends.opening isGap, ?_⟩
      rw [front, isObject, show ahead = _ from whole, List.append_assoc]
      rfl
    · obtain ⟨text, isScalar, scalar, isStage, areFrames⟩ := behind_takes skipScalar_takes moved
      rw [isStage, areFrames] at ends
      cases ends with
      | closed closes =>
        refine ⟨_, .value isGap (.scalar isScalar) closes, ?_⟩
        rw [front, scalar, whole]
        simp only [List.append_assoc]
  | opened frame =>
    simp only at moved
    split at moved
    · next isClose =>
      cases moved
      cases ends with
      | closed closes =>
        refine ⟨_, .empty isGap closes, ?_⟩
        rw [front, isClose, show ahead = _ from whole, List.append_assoc]
        rfl
    · obtain ⟨items, outer, inside, closes, same⟩ := ends.behind isGap moved whole
      exact ⟨_, .filled inside closes, front.trans same⟩
  | closed =>
    cases frames with
    | nil => cases moved
    | cons frame frames =>
      simp only at moved
      split at moved
      · next isComma =>
        obtain ⟨items, outer, inside, closes, same⟩ := ends.behind noGap moved whole
        refine ⟨_, .closed (.more isGap inside closes), ?_⟩
        rw [front, isComma, show ahead = _ from same]
        simp only [List.append_assoc, List.cons_append]
      split at moved
      · next isClose =>
        cases moved
        cases ends with
        | closed closes =>
          refine ⟨_, .closed (.close isGap closes), ?_⟩
          rw [front, isClose, show ahead = _ from whole, List.append_assoc]
          rfl
      · cases moved

/-- A run that comes to its end has closed everything that was open. -/
private theorem finish_takes {state : Skipping} {rest : List Char}
    (finished : state.finish = .ok ((), rest)) :
    ∃ taken, Ends state.stage state.frames taken ∧ state.input = taken ++ rest := by
  fun_induction finish state with
  | case1 state done =>
    cases finished
    obtain ⟨stage, frames, input⟩ := state
    simp only [isDone, Bool.and_eq_true, beq_iff_eq, List.isEmpty_iff] at done
    obtain ⟨rfl, rfl⟩ := done
    exact ⟨[], .closed .done, rfl⟩
  | case2 state _ next moved ih =>
    obtain ⟨taken, ends, whole⟩ := ih finished
    exact ends.advance moved whole
  | case3 => cases finished

end Skipping

/-- What is passed over as a value is one, with any space before it. -/
theorem skipValue_takes : skipValue.Takes fun _ => Indented (Written .value) := by
  intro input rest _ read
  obtain ⟨taken, ends, whole⟩ := Skipping.finish_takes read
  cases ends with
  | @value _ gap value _ isGap valued closes =>
    cases closes
    rw [List.append_nil] at whole
    exact ⟨_, ⟨gap, value, isGap, valued, rfl⟩, whole⟩

end Roshambo.Json
