import Roshambo.Proofs.Json.Lexical

/-! # Values of any depth

`Written` is the grammar of JSON values: scalars, and brackets around items with commas between
them. One relation describes values, single items and lists of items, so one induction serves all
depths. The main statement is `skipValue_written`: the reader that passes over a value with a list
of open brackets takes exactly the value, whatever is nested in it.
-/

namespace Roshambo.Json

def Frame.opening : Frame → Char
  | array => '['
  | object => '\x7b'

/-- What stands before a value in a frame: nothing in an array, a key and a colon in an object. -/
inductive Frame.Label : Frame → List Char → Prop
  | none : Label array []
  | key {text written gap : List Char} (spells : Spells ByAnyUnit text written)
      (isGap : IsGap gap) : Label object ('"' :: (written ++ '"' :: (gap ++ [':'])))

/-- The parts of a JSON text: a value, one item of a frame, or all items of a frame. -/
inductive Part where
  | value
  | item (frame : Frame)
  | items (frame : Frame)

/-- The texts of a part. No comma stands behind the last item of a frame. -/
inductive Written : Part → List Char → Prop
  | scalar {text : List Char} (isScalar : IsScalar text) : Written .value text
  | empty (frame : Frame) {gap : List Char} (isGap : IsGap gap) :
      Written .value (frame.opening :: (gap ++ [frame.close]))
  | filled {frame : Frame} {items : List Char} (inside : Written (.items frame) items) :
      Written .value (frame.opening :: (items ++ [frame.close]))
  | item {frame : Frame} {before label between value after : List Char} (isBefore : IsGap before)
      (labelled : frame.Label label) (isBetween : IsGap between) (valued : Written .value value)
      (isAfter : IsGap after) :
      Written (.item frame) (before ++ (label ++ (between ++ (value ++ after))))
  | last {frame : Frame} {item : List Char} (final : Written (.item frame) item) :
      Written (.items frame) item
  | more {frame : Frame} {item items : List Char} (first : Written (.item frame) item)
      (others : Written (.items frame) items) : Written (.items frame) (item ++ ',' :: items)

/-- The characters with which no part begins behind its space. -/
def closers : List Char := spaces ++ [']', '\x7d']

theorem visible_of_not_closer {c : Char} (opens : c ∉ closers) : c ∉ spaces :=
  fun within => opens (List.mem_append_left _ within)

theorem IsScalar.front {text : List Char} (isScalar : IsScalar text) :
    ∃ c tail, text = c :: tail ∧ c ∉ closers ∧ c ≠ '[' ∧ c ≠ '\x7b' := by
  cases isScalar with
  | null => exact ⟨'n', _, rfl, by decide⟩
  | true => exact ⟨'t', _, rfl, by decide⟩
  | false => exact ⟨'f', _, rfl, by decide⟩
  | string => exact ⟨'"', _, rfl, by decide⟩
  | number isNumber =>
    obtain ⟨c, tail, rfl, begins⟩ := isNumber.front
    have every : ∀ d ∈ closers ++ ['[', '\x7b'], ¬ beginsNumber d := by
      simp [closers, spaces, beginsNumber]
    refine ⟨c, tail, rfl, fun within => ?_, ?_, ?_⟩
    · exact every c (List.mem_append_left _ within) begins
    · rintro rfl
      exact every _ (by decide) begins
    · rintro rfl
      exact every _ (by decide) begins

/-- Every part begins, behind some space, with what is neither space nor a closing bracket. -/
theorem Written.front {part : Part} {text : List Char} (written : Written part text) :
    ∃ gap c tail, IsGap gap ∧ text = gap ++ c :: tail ∧ c ∉ closers := by
  have noGap : IsGap [] := fun _ within => absurd within (List.not_mem_nil)
  induction written with
  | scalar isScalar =>
    obtain ⟨c, tail, rfl, visible, _⟩ := isScalar.front
    exact ⟨[], c, tail, noGap, rfl, visible⟩
  | empty frame | @filled frame =>
    refine ⟨[], frame.opening, _, noGap, rfl, ?_⟩
    cases frame <;> decide
  | @item frame before label between value after isBefore labelled isBetween _ _ ih =>
    cases labelled with
    | none =>
      obtain ⟨gap, c, tail, isGap, rfl, visible⟩ := ih
      refine ⟨before ++ (between ++ gap), c, tail ++ after, ?_, ?_, visible⟩
      · intro d within
        simp only [List.mem_append] at within
        rcases within with within | within | within
        · exact isBefore d within
        · exact isBetween d within
        · exact isGap d within
      · simp only [List.nil_append, List.append_assoc, List.cons_append]
    | key => exact ⟨before, '"', _, isBefore, rfl, by decide⟩
  | last _ ih => exact ih
  | more _ _ ih _ =>
    obtain ⟨gap, c, tail, isGap, rfl, visible⟩ := ih
    exact ⟨gap, c, _, isGap, List.append_assoc .., visible⟩

namespace Skipping

theorem finish_done {state : Skipping} (done : state.isDone = true) :
    state.finish = .ok ((), state.input) := by
  rw [finish, if_pos done]

theorem finish_eq {state : Skipping} (goesOn : state.isDone = false) :
    state.finish = state.advance.bind finish := by
  rw [finish, if_neg (ne_true_of_eq_false goesOn)]
  split
  · next moved => rw [moved]; rfl
  · next moved => rw [moved]; rfl

private theorem finish_advance {state next : Skipping} (goesOn : state.isDone = false)
    (moved : state.advance = .ok next) : state.finish = next.finish := by
  rw [finish_eq goesOn, moved]
  rfl

def enter (frame : Frame) (frames : List Frame) (input : List Char) :
    Except Problem (Unit × List Char) :=
  (behind frame.skipKey input .value (frame :: frames)).bind finish

variable (frames : List Frame) {gap : List Char}

private theorem finish_value_gap (isGap : IsGap gap) (input : List Char) :
    finish ⟨.value, frames, gap ++ input⟩ = finish ⟨.value, frames, input⟩ := by
  rw [finish_eq (by rfl), finish_eq (by rfl)]
  simp only [advance, skipSpace_gap isGap]

private theorem finish_closed_gap (frame : Frame) (isGap : IsGap gap) (input : List Char) :
    finish ⟨.closed, frame :: frames, gap ++ input⟩ = finish ⟨.closed, frame :: frames, input⟩ := by
  rw [finish_eq (by rfl), finish_eq (by rfl)]
  simp only [advance, skipSpace_gap isGap]

private theorem finish_scalar {text rest : List Char} (isScalar : IsScalar text)
    (delimited : Delimited rest) :
    finish ⟨.value, frames, text ++ rest⟩ = finish ⟨.closed, frames, rest⟩ := by
  have passed := skipScalar_isScalar isScalar delimited
  obtain ⟨c, tail, rfl, visible, noArray, noObject⟩ := isScalar.front
  apply finish_advance rfl
  rw [List.cons_append] at passed
  simp only [List.cons_append, advance, skipSpace_cons (visible_of_not_closer visible),
    if_neg noArray, if_neg noObject, behind, passed]

private theorem finish_opening (frame : Frame) (input : List Char) :
    finish ⟨.value, frames, frame.opening :: input⟩ = finish ⟨.opened frame, frames, input⟩ := by
  apply finish_advance rfl
  cases frame <;> rfl

private theorem finish_empty (frame : Frame) (isGap : IsGap gap) (rest : List Char) :
    finish ⟨.opened frame, frames, gap ++ frame.close :: rest⟩ =
      finish ⟨.closed, frames, rest⟩ := by
  apply finish_advance rfl
  have visible : frame.close ∉ spaces := by cases frame <;> decide
  simp only [advance, skipSpace_gap isGap, skipSpace_cons visible, if_pos]

private theorem finish_comma (frame : Frame) (input : List Char) :
    finish ⟨.closed, frame :: frames, ',' :: input⟩ = enter frame frames input := by
  rw [finish_eq (by rfl)]
  rfl

private theorem finish_close (frame : Frame) (rest : List Char) :
    finish ⟨.closed, frame :: frames, frame.close :: rest⟩ = finish ⟨.closed, frames, rest⟩ := by
  apply finish_advance rfl
  cases frame <;> rfl

private theorem enter_gap (frame : Frame) (isGap : IsGap gap) (input : List Char) :
    enter frame frames (gap ++ input) = enter frame frames input := by
  cases frame with
  | array => exact finish_value_gap _ isGap input
  | object =>
    have same : Frame.object.skipKey (gap ++ input) = Frame.object.skipKey input := by
      have quote : mark '"' (gap ++ input) = mark '"' input := spaced_gap _ isGap input
      simp only [Frame.skipKey, Reader.bind_apply, quote]
    rw [enter, enter, behind, behind, same]

private theorem enter_label {frame : Frame} {label : List Char} (labelled : frame.Label label)
    (input : List Char) :
    enter frame frames (label ++ input) = finish ⟨.value, frame :: frames, input⟩ := by
  cases labelled with
  | none => rfl
  | @key text written gap spells isGap =>
    have passed : Frame.object.skipKey ('"' :: (written ++ '"' :: (gap ++ ':' :: input))) =
        .ok ((), input) := by
      rw [Frame.skipKey, Reader.bind_of_ok (mark_cons (by decide) _),
        Reader.bind_of_ok (skipText_spells spells _)]
      exact mark_gap isGap (by decide) input
    simp only [List.cons_append, List.append_assoc, List.nil_append, enter, behind, passed]
    rfl

private theorem finish_opened {frame : Frame} {items : List Char}
    (written : Written (.items frame) items) (rest : List Char) :
    finish ⟨.opened frame, frames, items ++ rest⟩ = enter frame frames (items ++ rest) := by
  obtain ⟨gap, c, tail, isGap, rfl, visible⟩ := written.front
  have noClose : c ≠ frame.close := by
    rintro rfl
    exact visible (by cases frame <;> decide)
  rw [List.append_assoc, List.cons_append, enter_gap _ _ isGap, finish_eq (by rfl)]
  simp only [advance, skipSpace_gap isGap, skipSpace_cons (visible_of_not_closer visible),
    if_neg noClose, enter]

end Skipping

open Skipping in
/-- What it means for the loop to pass over a part: it goes on behind the part, with the same frames
open. -/
def Passes : Part → List Char → Prop
  | .value, text => ∀ frames rest, Delimited rest →
    finish ⟨.value, frames, text ++ rest⟩ = finish ⟨.closed, frames, rest⟩
  | .item frame, text | .items frame, text => ∀ frames rest, Delimited rest →
    enter frame frames (text ++ rest) = finish ⟨.closed, frame :: frames, rest⟩

open Skipping in
theorem Written.passes {part : Part} {text : List Char} (written : Written part text) :
    Passes part text := by
  induction written with
  | scalar isScalar =>
    intro frames rest delimited
    exact finish_scalar frames isScalar delimited
  | empty frame isGap =>
    intro frames rest _
    rw [List.cons_append, List.append_assoc, finish_opening]
    exact finish_empty frames frame isGap rest
  | @filled frame items inside passes =>
    intro frames rest _
    have closes : Delimited (frame.close :: rest) := .cons (by cases frame <;> decide) rest
    rw [List.cons_append, List.append_assoc, finish_opening, finish_opened frames inside]
    apply (passes frames (frame.close :: rest) closes).trans
    exact finish_close frames frame rest
  | @item frame before label between value after isBefore labelled isBetween _ isAfter passes =>
    intro frames rest delimited
    simp only [List.append_assoc]
    rw [enter_gap _ _ isBefore, enter_label _ labelled, finish_value_gap _ isBetween]
    apply (passes (frame :: frames) _ (.gap isAfter delimited)).trans
    exact finish_closed_gap frames frame isAfter rest
  | last _ passes => exact passes
  | @more frame item items _ _ firstPasses othersPass =>
    intro frames rest delimited
    rw [List.append_assoc, List.cons_append]
    apply (firstPasses frames _ (.cons (by decide) _)).trans
    rw [finish_comma]
    exact othersPass frames rest delimited

/-- A value is passed over up to the delimiter behind it, however deep it is. -/
theorem skipValue_written {gap text rest : List Char} (isGap : IsGap gap)
    (written : Written .value text) (delimited : Delimited rest) :
    skipValue (gap ++ (text ++ rest)) = .ok ((), rest) := by
  rw [skipValue, Skipping.finish_value_gap [] isGap]
  apply (written.passes [] rest delimited).trans
  exact Skipping.finish_done rfl

end Roshambo.Json
