import Roshambo.Proofs.Json.Settling

/-! # The first problem decides

A text is read from left to right, and what is wrong with it is answered as soon as it is met. So
whatever follows a text, what was wrong with it stays wrong in the same way, and a text that is in
order has no front that was wrong (`ofJson_append`). The loop that passes over a value and the one
that reads members carry this from one move to the next (`advance_lasts`, `settles_readNext`).
-/

namespace Roshambo.Json

variable {keys : KeyRule}

namespace Skipping

variable {more : List Char}

def followed (more : List Char) (state : Skipping) : Skipping :=
  { state with input := state.input ++ more }

theorem behind_lasts {reader : Reader Unit} (settles : reader.Settles more) (input : List Char)
    (stage : Stage) (frames : List Frame) :
    Lasts (followed more) (behind reader input stage frames)
      (behind reader (input ++ more) stage frames) := by
  have behind_eq (input : List Char) : behind reader input stage frames =
      (reader input).map fun found => ⟨stage, frames, found.2⟩ := by
    unfold behind
    cases reader input <;> rfl
  rw [behind_eq, behind_eq]
  exact (settles input).map fun _ => rfl

theorem settles_skipKey (frame : Frame) : frame.skipKey.Settles more := by
  cases frame with
  | array => exact settles_pure ()
  | object =>
    exact (settles_mark '"').bind fun _ => settles_skipText.bind fun _ => settles_mark ':'

/-- One move of the loop is settled by the text that it looks at. -/
theorem advance_lasts (severs : Severs more) (state : Skipping) :
    Lasts (followed more) state.advance (followed more state).advance := by
  obtain ⟨stage, frames, input⟩ := state
  rw [advance, advance, followed]
  by_cases goesOn : skipSpace input = []
  · simp only [goesOn]
    exact .truncated _
  obtain ⟨c, rest, isFront⟩ := List.exists_cons_of_ne_nil goesOn
  simp only [skipSpace_append goesOn, isFront, List.cons_append]
  cases stage with
  | value =>
    simp only
    split
    · exact .value _
    split
    · exact .value _
    · exact behind_lasts (settles_skipScalar severs) (c :: rest) _ _
  | opened frame =>
    simp only
    split
    · exact .value _
    · exact behind_lasts (settles_skipKey frame) (c :: rest) _ _
  | closed =>
    cases frames with
    | nil => exact .problem _
    | cons frame frames =>
      simp only
      split
      · exact behind_lasts (settles_skipKey frame) rest _ _
      split
      · exact .value _
      · exact .problem _

private theorem finish_lasts (severs : Severs more) (state : Skipping) :
    Lasts (Json.followed more) state.finish (followed more state).finish := by
  induction size : state.work using Nat.strongRecOn generalizing state with
  | ind work ih =>
    by_cases done : state.isDone = true
    · have doneToo : (followed more state).isDone = true := done
      rw [finish_done done, finish_done doneToo]
      exact .value _
    · have goesOn : state.isDone = false := Bool.eq_false_iff.mpr done
      have goesOnToo : (followed more state).isDone = false := goesOn
      rw [finish_eq goesOn, finish_eq goesOnToo]
      apply (advance_lasts severs state).bind
      intro next moved
      have less := advance_less moved
      exact ih next.work (by omega) next rfl

end Skipping

section Rounds

variable {α : Type} {more : List Char} (severs : Severs more)

private theorem settles_named (variants : Variants α) (name : String) :
    (variants.named name).Settles more := by
  unfold Variants.named
  split
  · exact settles_pure _
  · exact settles_fail _

theorem settles_readName (variants : Variants α) : (readName variants).Settles more :=
  settles_readText.bind fun _ => settles_named variants _

include severs

private theorem settles_skipValue : skipValue.Settles more := fun input =>
  Skipping.finish_lasts severs ⟨.value, [], input⟩

theorem settles_readNull : readNull.Settles more := by
  apply settles_spaced rfl
  intro c rest
  by_cases isNull : c = 'n'
  · rw [isNull]
    exact settles_expect _ rest
  · simp only [List.cons.injEq, isNull, false_and, imp_self, implies_true]
    exact unexpected_lasts severs "unit" (c :: rest)

omit severs in
private theorem KeyRule.problem_lasts {extend : β → β} (severs : Severs more) (input : List Char) :
    Lasts extend (.error (keys.problem input)) (.error (keys.problem (input ++ more))) := by
  cases keys with
  | malformed => exact .problem _
  | mismatched => exact unexpected_lasts severs _ input

private theorem settles_openKey : (openKey keys).Settles more := by
  apply settles_spaced rfl
  intro c rest
  by_cases isQuote : c = '"'
  · rw [isQuote]
    exact .value _
  · simp only [List.cons.injEq, isQuote, false_and, imp_self, implies_true]
    exact KeyRule.problem_lasts severs (c :: rest)

private theorem settles_readTagged (variants : Variants α) :
    (readTagged keys variants).Settles more :=
  (settles_openKey severs).bind fun _ =>
    (settles_readName variants).bind fun _ =>
      (settles_mark ':').bind fun _ =>
        (settles_readNull severs).bind fun _ =>
          (settles_mark '\x7d').bind fun _ => settles_pure _

theorem settles_readVariant (variants : Variants α) : (readVariant keys variants).Settles more := by
  apply settles_spaced rfl
  intro c rest
  by_cases isQuote : c = '"'
  · rw [isQuote]
    exact settles_readName variants rest
  by_cases isBracket : c = '\x7b'
  · rw [isBracket]
    exact settles_readTagged severs variants rest
  · simp only [List.cons.injEq, isQuote, isBracket, false_and, imp_self, implies_true]
    exact .problem _

private theorem settles_readField (slots : Slots) (field : Round.Field) :
    (readField keys slots field).Settles more := by
  cases field with
  | player | other | result =>
    exact (settles_readVariant severs _).bind fun _ => settles_pure _

private theorem settles_readMember (slots : Slots) (key : String) :
    (readMember keys slots key).Settles more := by
  unfold readMember
  split
  · split
    · exact settles_fail _
    · exact (settles_mark ':').bind fun _ => settles_readField severs slots _
  · exact (settles_mark ':').bind fun _ => (settles_skipValue severs).bind fun _ => settles_pure _

omit severs in
private theorem settles_readAhead (first : Bool) : (readAhead first).Settles more := by
  have quote : (do mark '"'; return true : Reader Bool).Settles more :=
    (settles_mark '"').bind fun _ => settles_pure true
  apply settles_spaced rfl
  intro c rest
  by_cases isBracket : c = '\x7d'
  · rw [isBracket]
    exact .value _
  · simp only
    split
    · exact quote (c :: rest)
    split
    · exact quote rest
    · exact .problem _

theorem settles_readNext (first : Bool) (slots : Slots) :
    (readNext keys first slots).Settles more := by
  apply (settles_readAhead first).bind
  intro goesOn
  split
  · exact settles_readText.bind fun key =>
      (settles_readMember severs slots _).bind fun _ => settles_pure _
  · exact settles_pure none

private theorem settles_readMembers (first : Bool) (slots : Slots) :
    Reader.Settles more (readMembers keys first slots) := by
  intro input
  induction size : input.length using Nat.strongRecOn generalizing first slots input with
  | ind length ih =>
    rw [readMembers_eq, readMembers_eq]
    apply (settles_readNext severs first slots input).bind
    rintro ⟨found, rest⟩ read
    have shorter := consumes_readNext keys first slots read
    cases found with
    | some next => exact ih rest.length (by omega) false next rest rfl
    | none =>
      cases slots.complete with
      | error problem => exact .problem _
      | ok round => exact .value _

omit severs in
theorem settles_readElement {value : Reader α} (settles : value.Settles more) (count : Nat) :
    (readElement count value).Settles more := by
  apply settles_spaced rfl
  intro c rest
  by_cases isBracket : c = ']'
  · rw [isBracket]
    exact .problem _
  · simp only
    split
    · exact settles (c :: rest)
    split
    · exact settles rest
    · exact .problem _

private theorem settles_readElements : (readElements keys).Settles more :=
  (settles_readElement (settles_readVariant severs moveVariants) 0).bind fun _ =>
    (settles_readElement (settles_readVariant severs moveVariants) 1).bind fun _ =>
      (settles_readElement (settles_readVariant severs outcomeVariants) 2).bind fun _ =>
        (settles_mark ']').bind fun _ => settles_pure _

private theorem settles_readRound : (readRound keys).Settles more := by
  apply settles_spaced rfl
  intro c rest
  by_cases isArray : c = '['
  · rw [isArray]
    exact settles_readElements severs rest
  by_cases isObject : c = '\x7b'
  · rw [isObject]
    exact settles_readMembers severs true .empty rest
  · simp only [List.cons.injEq, isArray, isObject, false_and, imp_self, implies_true]
    exact unexpected_lasts severs _ (c :: rest)

end Rounds

/-- Whether the answer to a longer text agrees with that to its front: a problem stays, and a valid
text has a valid or unfinished front. -/
structure Settled {α : Type} (short long : Except Problem α) : Prop where
  kept : ∀ problem, short = .error problem → problem ≠ .truncated → long = .error problem
  earlier : ∀ value, long = .ok value → short = .ok value ∨ short = .error .truncated

/-- Once a value has been read, only space may follow it, and so it is with more text. -/
private theorem ended_settled {α : Type} (value : α) (rest more : List Char) :
    Settled (if skipSpace rest = [] then .ok value else .error .malformed)
      (if skipSpace (rest ++ more) = [] then .ok value else .error .malformed) := by
  by_cases ended : skipSpace rest = []
  · rw [if_pos ended]
    constructor
    · intro problem same
      cases same
    · intro other found
      split at found
      · exact .inl found
      · cases found
  · have stillMore : skipSpace (rest ++ more) ≠ [] := by
      rw [skipSpace_append ended]
      exact List.append_ne_nil_of_left_ne_nil ended _
    rw [if_neg ended, if_neg stillMore]
    constructor
    · exact fun _ same _ => same
    · intro other found
      cases found

theorem decode_settled {α : Type} {reader : Reader α} {text more : String}
    (settles : reader.Settles more.toList) :
    Settled (decode reader text) (decode reader (text ++ more)) := by
  have answer := settles text.toList
  rw [decode_eq, decode_eq, String.toList_append]
  generalize reader text.toList = short at answer ⊢
  generalize reader (text.toList ++ more.toList) = long at answer ⊢
  cases answer with
  | value found => exact ended_settled found.1 found.2 more.toList
  | truncated =>
    constructor
    · rintro problem same complete
      cases same
      exact absurd rfl complete
    · exact fun _ _ => .inr rfl
  | problem problem =>
    constructor
    · exact fun _ same _ => same
    · intro value found
      cases found

end Roshambo.Json

namespace Roshambo

open Json

/-- What is wrong with a text, unless it just ended too early, is answered the same whatever comes
behind it, if no number goes on there. -/
theorem ofJson_append (keys : KeyRule) {text more : String} (severs : Severs more.toList) :
    Settled (Move.ofJsonUnder keys text) (Move.ofJsonUnder keys (text ++ more)) ∧
      Settled (Outcome.ofJsonUnder keys text) (Outcome.ofJsonUnder keys (text ++ more)) ∧
      Settled (Round.ofJsonUnder keys text) (Round.ofJsonUnder keys (text ++ more)) := by
  refine ⟨?_, ?_, ?_⟩
  · exact decode_settled (settles_readVariant severs moveVariants)
  · exact decode_settled (settles_readVariant severs outcomeVariants)
  · exact decode_settled (settles_readRound severs)

/-- The front of an object up to a key that has already been there. -/
def doubledKey : String := "\x7b\"player_move\":\"Rock\",\"note\":[-2],\"player_move\""

set_option maxRecDepth 4000 in
/-- The repeated key is the answer, also before an unknown name; and a number in place of a key,
under either rule, also when the object goes on. -/
theorem ofJson_append_doubledKey :
    let more : String := ":\"Lizard\"\x7d"
    let found : Problem := .mismatch (.invalidType (.integer 1) "variant identifier")
    Severs more.toList ∧
      Round.ofJson doubledKey = .error (.mismatch (.duplicateField "player_move")) ∧
      Round.ofJson (doubledKey ++ more) = .error (.mismatch (.duplicateField "player_move")) ∧
      Move.ofJson "\x7b1" = .error .malformed ∧
      Move.ofJson ("\x7b1" ++ more) = .error .malformed ∧
      Move.ofJsonUnder .mismatched "\x7b1" = .error found ∧
      Move.ofJsonUnder .mismatched ("\x7b1" ++ more) = .error found := by
  intro more found
  have severs : Severs more.toList := by
    have begins : more.toList.head? = some ':' := by decide
    intro c isHead
    rw [begins] at isHead
    cases isHead
    decide
  have doubled : Round.ofJson doubledKey = .error (.mismatch (.duplicateField "player_move")) := by
    with_unfolding_all rfl
  have malformed : Move.ofJson "\x7b1" = .error .malformed := by
    with_unfolding_all rfl
  have mismatched : Move.ofJsonUnder .mismatched "\x7b1" = .error found := by
    with_unfolding_all rfl
  obtain ⟨_, _, round⟩ := @ofJson_append .malformed doubledKey more severs
  obtain ⟨byDefault, _⟩ := @ofJson_append .malformed "\x7b1" more severs
  obtain ⟨byFound, _⟩ := @ofJson_append .mismatched "\x7b1" more severs
  exact ⟨severs, doubled, round.kept _ doubled nofun, malformed, byDefault.kept _ malformed nofun,
    mismatched, byFound.kept _ mismatched nofun⟩

end Roshambo
