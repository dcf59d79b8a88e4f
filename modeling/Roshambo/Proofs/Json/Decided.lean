import Roshambo.Proofs.Json.FirstProblem

/-! # Values that decide

A reader may come to an answer on a text in two ways: it takes all of it, or it finds a problem that
more text would not mend. Then the answer is the same whatever stands behind the text
(`Reader.Decides.exists_answer`). Every JSON value decides in this way where a name is read, from
the strings that are no texts to the objects of any depth (`readVariant_decides`), so the answer
for a value depends on the value alone (`exists_answer_of_written`).
-/

namespace Roshambo.Json

variable {keys : KeyRule}

/-- Whether a reader comes to an answer on a text: it takes the whole of it, or it finds a problem
other than that the text has ended. -/
inductive Reader.Decides {α : Type} (reader : Reader α) (text : List Char) : Prop
  | value {value : α} (whole : reader text = .ok (value, []))
  | problem {problem : Problem} (failed : reader text = .error problem)
      (complete : problem ≠ .truncated)

section Deciding

variable {α β : Type} {text more : List Char}

theorem Lasts.of_ok {extend : β → β} {found : β} {long : Except Problem β}
    (lasts : Lasts extend (.ok found) long) : long = .ok (extend found) := by
  cases lasts
  rfl

theorem Lasts.of_error {extend : β → β} {problem : Problem} {long : Except Problem β}
    (lasts : Lasts extend (.error problem) long) (complete : problem ≠ .truncated) :
    long = .error problem := by
  cases lasts with
  | truncated => exact absurd rfl complete
  | problem => rfl

namespace Reader.Decides

/-- A text that decides is answered in the same way whatever stands behind it. -/
theorem exists_answer {reader : Reader α} (decides : reader.Decides text) :
    ∃ answer : Except Problem α, ∀ more, reader.Settles more →
      reader (text ++ more) = answer.map (·, more) := by
  cases decides with
  | @value value whole =>
    refine ⟨.ok value, fun more settles => ?_⟩
    have lasts := settles text
    rw [whole] at lasts
    exact lasts.of_ok
  | @problem problem failed complete =>
    refine ⟨.error problem, fun more settles => ?_⟩
    have lasts := settles text
    rw [failed] at lasts
    exact lasts.of_error complete

private theorem ne_truncated {reader : Reader α} (decides : reader.Decides text) :
    reader text ≠ .error .truncated := by
  intro ended
  cases decides with
  | value whole => rw [whole] at ended; cases ended
  | problem failed complete =>
    rw [failed] at ended
    cases ended
    exact complete rfl

theorem of_eq {reader other : Reader α} (same : reader text = other more)
    (decides : other.Decides more) : reader.Decides text := by
  cases decides with
  | value whole => exact .value (same.trans whole)
  | problem failed complete => exact .problem (same.trans failed) complete

theorem bind_ok {first : Reader α} {next : α → Reader β} {value : α}
    (found : first text = .ok (value, more)) (decides : (next value).Decides more) :
    (first >>= next).Decides text :=
  of_eq (Reader.bind_of_ok found next) decides

theorem malformed {reader : Reader α} (failed : reader text = .error .malformed) :
    reader.Decides text := .problem failed nofun

theorem bind_error {first : Reader α} {problem : Problem} (failed : first text = .error problem)
    (complete : problem ≠ .truncated) (next : α → Reader β) : (first >>= next).Decides text :=
  .problem (Reader.bind_of_error failed next) complete

/-- Two readers in turn come to an answer on two texts in turn. -/
theorem append {first : Reader α} {next : α → Reader β} (head : first.Decides text)
    (settles : first.Settles more) (tail : ∀ value, (next value).Decides more) :
    (first >>= next).Decides (text ++ more) := by
  have lasts := settles text
  cases head with
  | @value value whole =>
    rw [whole] at lasts
    exact bind_ok lasts.of_ok (tail value)
  | problem failed complete =>
    rw [failed] at lasts
    exact bind_error (lasts.of_error complete) complete next

theorem pure (value : α) : (pure value : Reader α).Decides [] := .value rfl

theorem fail {problem : Problem} (complete : problem ≠ .truncated) (text : List Char) :
    (Reader.fail problem : Reader α).Decides text := .problem rfl complete

theorem map {reader : Reader α} (decides : reader.Decides text) (change : α → β) :
    (reader >>= fun value => Pure.pure (change value)).Decides text := by
  cases decides with
  | value whole => exact bind_ok whole (pure _)
  | problem failed complete => exact bind_error failed complete _

end Reader.Decides

end Deciding

section Strings

/-- Read the second half of a pair of which the first is known. -/
def readTrail (lead : Nat) : Reader Char := do
  expect ['\\', 'u']
  let trail ← readUnit
  if isTrail trail then return ofPair lead trail else Reader.fail .malformed

/-- Read a string from a place where a character is read in its own way. -/
def readTextFrom (numbered : Reader Char) : Reader (List Char) := do
  let c ← numbered
  let text ← readText
  return c :: text

theorem readText_escape (input : List Char) :
    readText ('\\' :: input) = readTextFrom (readEscape readNumbered) input := by
  rw [readText, scanText_escape, readTextFrom, Reader.bind_eq]
  congr 1
  funext escape
  exact (Reader.bind_pure_eq readText (escape.1 :: ·) escape.2).symm

private theorem readText_plain {c : Char} (printable : ' ' ≤ c) (noQuote : c ≠ '"')
    (noEscape : c ≠ '\\')
    (input : List Char) : readText (c :: input) = readTextFrom (pure c) input := by
  rw [readText, scanText_plain input printable noQuote noEscape]
  exact (Reader.bind_pure_eq readText (c :: ·) input).symm

theorem readTextFrom_ok {numbered : Reader Char} {c : Char} {text more : List Char}
    (found : numbered text = .ok (c, more)) (decides : readText.Decides more) :
    (readTextFrom numbered).Decides text := .bind_ok found (decides.map _)

theorem readTextFrom_malformed {numbered : Reader Char} {text : List Char}
    (failed : numbered text = .error .malformed) : (readTextFrom numbered).Decides text :=
  .malformed (Reader.bind_of_error failed _)

/-- What is neither the second half of a pair nor an escape at all cannot follow a first half. -/
theorem readTrail_malformed (lead : Nat) {text : List Char}
    (noEscape : expect ['\\', 'u'] text = .error .malformed) :
    (readTextFrom (readTrail lead)).Decides text :=
  readTextFrom_malformed (Reader.bind_of_error noEscape _)

section Numbered

variable {unit : Nat} {digits more : List Char} (spells : SpellsUnit unit digits)

include spells

private theorem readTrail_decides (lead : Nat) (decides : readText.Decides more) :
    (readTextFrom (readTrail lead)).Decides ('\\' :: 'u' :: (digits ++ more)) := by
  have read : readTrail lead ('\\' :: 'u' :: (digits ++ more)) =
      (if isTrail unit then pure (ofPair lead unit) else Reader.fail .malformed : Reader Char)
        more := by
    have marks : expect ['\\', 'u'] ('\\' :: 'u' :: (digits ++ more)) =
        .ok ((), digits ++ more) := rfl
    rw [readTrail, Reader.bind_of_ok marks, Reader.bind_of_ok (readUnit_spells spells more)]
  split at read
  · exact readTextFrom_ok read decides
  · exact readTextFrom_malformed read

private theorem readNumbered_decides (decides : readText.Decides more)
    (behindLead : ∀ lead, (readTextFrom (readTrail lead)).Decides more) :
    (readTextFrom readNumbered).Decides (digits ++ more) := by
  have read : readNumbered (digits ++ more) =
      (if isTrail unit then Reader.fail .malformed
        else if isLead unit then readTrail unit else pure (Char.ofNat unit) : Reader Char) more :=
    Reader.bind_of_ok (readUnit_spells spells more) _
  split at read
  · exact readTextFrom_malformed read
  split at read
  · have same : readTextFrom readNumbered (digits ++ more) =
        readTextFrom (readTrail unit) more := by
      rw [readTextFrom, readTextFrom, Reader.bind_apply, Reader.bind_apply, read]
    exact .of_eq same (behindLead unit)
  · exact readTextFrom_ok read decides

end Numbered

/-- A string comes to its closing quote, also if half of a pair stands alone in it; so does the rest
of one behind a first half. -/
theorem readText_decides {text written : List Char} (spells : Spells ByAnyUnit text written) :
    readText.Decides (written ++ ['"']) ∧
      ∀ lead, (readTextFrom (readTrail lead)).Decides (written ++ ['"']) := by
  induction spells with
  | nil =>
    constructor
    · exact .value (scanText_quote [])
    · exact fun lead => readTrail_malformed lead rfl
  | @cons c text piece written head tail ih =>
    obtain ⟨string, behindLead⟩ := ih
    rw [List.append_assoc]
    cases head with
    | plain printable noQuote noEscape =>
      constructor
      · apply Reader.Decides.of_eq (readText_plain printable noQuote noEscape _)
        exact readTextFrom_ok rfl string
      · exact fun lead => readTrail_malformed lead (if_neg (Ne.symm noEscape))
    | @short letter c escape =>
      have noNumber : letter ≠ 'u' := by
        rintro rfl
        revert escape
        simp [shortEscapes]
      constructor
      · apply Reader.Decides.of_eq (readText_escape _)
        exact readTextFrom_ok (readEscape_short escape _) string
      · exact fun lead => readTrail_malformed lead (if_neg (Ne.symm noNumber))
    | @number _ digits counts =>
      obtain ⟨rfl, unit, isUnit⟩ := counts
      constructor
      · have same : readText ('\\' :: 'u' :: (digits ++ (written ++ ['"']))) =
            readTextFrom readNumbered (digits ++ (written ++ ['"'])) := readText_escape _
        exact .of_eq same (readNumbered_decides isUnit string behindLead)
      · exact fun lead => readTrail_decides isUnit lead string

end Strings

section Named

variable {text more : List Char}

theorem Delimited.severs (delimited : Delimited more) : Severs more := by
  have every : ∀ c ∈ delimiters, c ∉ numeric := by simp [delimiters, spaces, numeric]
  exact fun c isHead => every c (delimited c isHead)

private theorem readFoundNumber_ne_truncated (isNumber : IsNumber text) :
    readFoundNumber text ≠ .error .truncated := by
  have delimited : Delimited [] := nofun
  obtain ⟨numeral, read⟩ := readNumeral_isNumber .truncated isNumber delimited
  rw [List.append_nil] at read
  rw [readFoundNumber, Reader.bind_of_ok read]
  rcases numeral.value? with _ | (value | value) <;> exact nofun

private theorem readFound_number {c : Char} (begins : beginsNumber c) (rest : List Char) :
    readFound (c :: rest) = readFoundNumber (c :: rest) := by
  have every : ∀ d ∈ ['[', '\x7b', '"', 'n', 't', 'f'], ¬ beginsNumber d := by simp [beginsNumber]
  have other : c ∉ ['[', '\x7b', '"', 'n', 't', 'f'] := fun within => every c within begins
  simp only [List.mem_cons, List.not_mem_nil, or_false, not_or] at other
  obtain ⟨noArray, noObject, noText, noNull, noTrue, noFalse⟩ := other
  rw [readFound, if_pos begins] <;> assumption

/-- A value is told for what it is, unless it is none after all. -/
private theorem readFound_ne_truncated (written : Written .value text) :
    readFound text ≠ .error .truncated := by
  cases written with
  | empty frame | @filled frame => cases frame <;> exact nofun
  | scalar isScalar =>
    cases isScalar with
    | null | true | false => exact nofun
    | string spells => exact ((readText_decides spells).1.map _).ne_truncated
    | number isNumber =>
      have complete := readFoundNumber_ne_truncated isNumber
      obtain ⟨c, tail, rfl, begins⟩ := isNumber.front
      rwa [readFound_number begins]

private theorem unexpected_ne_truncated (expected : String) (written : Written .value text) :
    unexpected expected text ≠ .truncated := by
  have complete := readFound_ne_truncated written
  unfold unexpected
  split
  · exact nofun
  · next failed =>
    rintro rfl
    exact complete failed

/-- A value begins with no space and no closing bracket, and only null begins with an n. -/
theorem Written.valueFront (written : Written .value text) :
    ∃ c tail, text = c :: tail ∧ c ∉ closers ∧ (c = 'n' → tail = ['u', 'l', 'l']) := by
  cases written with
  | scalar isScalar =>
    cases isScalar with
    | null => exact ⟨'n', _, rfl, by decide, fun _ => rfl⟩
    | true => exact ⟨'t', _, rfl, by decide, by decide⟩
    | false => exact ⟨'f', _, rfl, by decide, by decide⟩
    | string => exact ⟨'"', _, rfl, by decide, fun same => absurd same (by decide)⟩
    | number isNumber =>
      obtain ⟨c, tail, rfl, visible, _⟩ := (IsScalar.number isNumber).front
      obtain ⟨_, _, same, begins⟩ := isNumber.front
      cases same
      refine ⟨c, tail, rfl, visible, ?_⟩
      rintro rfl
      exact absurd begins (by decide)
  | empty frame | @filled frame =>
    have opens : frame.opening ∉ closers ∧ frame.opening ≠ 'n' := by cases frame <;> decide
    exact ⟨frame.opening, _, rfl, opens.1, fun same => absurd same opens.2⟩

private theorem readNull_decides {gap : List Char} (isGap : IsGap gap)
    (written : Written .value text) :
    readNull.Decides (gap ++ text) := by
  have complete := unexpected_ne_truncated "unit" written
  obtain ⟨c, tail, rfl, visible, onlyNull⟩ := written.valueFront
  by_cases isNull : c = 'n'
  · rw [isNull, onlyNull isNull]
    exact .value (readNull_gap isGap [])
  · refine .problem ?_ complete
    apply (spaced_gap_cons _ isGap (visible_of_not_closer visible) tail).trans
    simp only [List.cons.injEq, isNull, false_and, imp_self, implies_true]

variable {α : Type} (variants : Variants α)

theorem readName_decides {written : List Char} (spells : Spells ByAnyUnit text written) :
    (readName variants).Decides (written ++ ['"']) := by
  have named : ∀ name, (variants.named name).Decides [] := by
    intro name
    unfold Variants.named
    split
    · exact .pure _
    · apply Reader.Decides.fail
      exact nofun
  have string := (readText_decides spells).1
  rw [← List.append_nil (written ++ ['"'])]
  exact string.append settles_readText fun _ => named _

/-- The end of an object behind its only member, or what stands there instead. -/
inductive MemberEnd : List Char → Prop
  | close : MemberEnd ['\x7d']
  | comma (rest : List Char) : MemberEnd (',' :: rest)

theorem MemberEnd.delimited {ending : List Char} (ends : MemberEnd ending) : Delimited ending := by
  cases ends with
  | close => exact .cons (by decide) _
  | comma => exact .cons (by decide) _

/-- An empty object has no key, which is malformed under any rule. -/
private theorem openKey_close {gap : List Char} (isGap : IsGap gap) :
    openKey keys (gap ++ ['\x7d']) = .error .malformed := by
  apply (spaced_gap_cons _ isGap (by decide) []).trans
  cases keys <;> rfl

/-- An object with at least one member comes to an answer where a name is read, whatever its first
key is and however many members there are. -/
theorem readTagged_decides {item ending : List Char} (first : Written (.item .object) item)
    (ends : MemberEnd ending) : (readTagged keys variants).Decides (item ++ ending) := by
  cases first with
  | @item _ before label between value after isBefore labelled isBetween valued isAfter =>
    cases labelled with
    | @key text written gap spells isGap =>
      have last : ∀ value : α, (mark '\x7d' >>= fun _ => (pure value : Reader α)).Decides
          (after ++ ending) := by
        intro value
        cases ends with
        | close => exact .bind_ok (mark_gap isAfter (by decide) []) (.pure value)
        | comma rest =>
          have noBracket : mark '\x7d' (after ++ ',' :: rest) = .error .malformed :=
            (spaced_gap_cons _ isAfter (by decide) rest).trans (if_neg (by decide))
          exact .malformed (Reader.bind_of_error noBracket _)
      have severs : Severs (after ++ ending) := (Delimited.gap isAfter ends.delimited).severs
      have behindName : ∀ found : α, (do mark ':'; readNull; mark '\x7d'; return found :
          Reader α).Decides (gap ++ ':' :: (between ++ value ++ (after ++ ending))) := by
        intro found
        apply Reader.Decides.bind_ok (mark_gap isGap (by decide) _)
        exact (readNull_decides isBetween valued).append (settles_readNull severs)
          fun _ => last found
      have whole := (readName_decides variants spells).append (settles_readName variants) behindName
      simp only [List.append_assoc, List.cons_append, List.nil_append] at whole ⊢
      exact .bind_ok (openKey_gap isBefore _) whole

theorem readVariant_other {c : Char} (visible : c ∉ spaces) (noQuote : c ≠ '"')
    (noBracket : c ≠ '\x7b') (rest : List Char) :
    (readVariant keys variants).Decides (c :: rest) := by
  apply Reader.Decides.malformed
  apply (spaced_cons _ visible rest).trans
  simp only [List.cons.injEq, noQuote, noBracket, false_and, imp_self, implies_true]

/-- Every value decides where a name is read. -/
theorem readVariant_decides (written : Written .value text) :
    (readVariant keys variants).Decides text := by
  cases written with
  | scalar isScalar =>
    cases isScalar with
    | null | true | false =>
      exact readVariant_other variants (by decide) (by decide) (by decide) _
    | string spells =>
      exact .of_eq (readVariant_quote variants _) (readName_decides variants spells)
    | number isNumber =>
      obtain ⟨c, tail, rfl, begins⟩ := isNumber.front
      have every : ∀ d ∈ '"' :: '\x7b' :: spaces, ¬ beginsNumber d := by
        simp [spaces, beginsNumber]
      have other : c ∉ '"' :: '\x7b' :: spaces := fun within => every c within begins
      simp only [List.mem_cons, not_or] at other
      exact readVariant_other variants other.2.2 other.1 other.2.1 tail
  | @empty frame gap isGap =>
    cases frame with
    | array => exact readVariant_other variants (by decide) (by decide) (by decide) _
    | object =>
      apply Reader.Decides.of_eq (readVariant_bracket variants _)
      exact .malformed (Reader.bind_of_error (openKey_close isGap) _)
  | @filled frame items inside =>
    cases frame with
    | array => exact readVariant_other variants (by decide) (by decide) (by decide) _
    | object =>
      apply Reader.Decides.of_eq (readVariant_bracket variants _)
      cases inside with
      | last only => exact readTagged_decides variants only .close
      | more first _ =>
        rw [List.append_assoc]
        exact readTagged_decides variants first (.comma _)

/-- What is answered for a value where a name is read depends on the value alone: not on the space
before it, and not on what stands behind it. -/
theorem exists_answer_of_written (written : Written .value text) :
    ∃ answer : Except Problem α, ∀ gap more, IsGap gap → Delimited more →
      readVariant keys variants (gap ++ (text ++ more)) = answer.map (·, more) := by
  obtain ⟨answer, agrees⟩ := (readVariant_decides variants written).exists_answer
  refine ⟨answer, fun gap more isGap delimited => ?_⟩
  exact (spaced_gap _ isGap _).trans (agrees more (settles_readVariant delimited.severs variants))

end Named

end Roshambo.Json
