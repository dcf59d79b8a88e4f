import Roshambo.Proofs.Json.Accepted
import Roshambo.Proofs.Json.Decided

/-! # The two forms of a round

A round may be given as an array of three values or as an object with the same values under their
keys. The array is read by place and the object by key, and still the two are answered alike,
whatever the values are: what is answered for a value depends on the value alone, so in both forms
the first value that is no name of its field decides. An array of another length is refused, for its
length if it is too short and as no JSON of a round if it is too long. The main statement is
`Round.ofJson_forms`.
-/

namespace Roshambo.Json

variable {keys : KeyRule}

/-- The texts of the items of a frame from some place on, up to the closing bracket, each of them of
its kind. -/
inductive Items (frame : Frame) : Bool → List (List Char → Prop) → List Char → Prop
  | done {first : Bool} {gap : List Char} (isGap : IsGap gap) :
      Items frame first [] (gap ++ [frame.close])
  | next {first : Bool} {kind : List Char → Prop} {kinds : List (List Char → Prop)}
      {ahead text others : List Char} (isAhead : Ahead first ahead) (isItem : kind text)
      (more : Items frame false kinds others) :
      Items frame first (kind :: kinds) (ahead ++ (text ++ others))

inductive Framed (frame : Frame) (kinds : List (List Char → Prop)) : List Char → Prop
  | brackets {items : List Char} (inside : Items frame true kinds items) :
      Framed frame kinds (frame.opening :: items)

inductive Keyed (field : Round.Field) (value : List Char) : List Char → Prop
  | member {key before after : List Char} (keyed : Spells ByCode field.key.toList key)
      (isBefore : IsGap before) (isAfter : IsGap after) :
      Keyed field value ('"' :: (key ++ '"' :: (before ++ ':' :: (after ++ value))))

theorem Items.delimited {frame : Frame} {kinds : List (List Char → Prop)} {items : List Char}
    (inside : Items frame false kinds items) (rest : List Char) : Delimited (items ++ rest) := by
  cases inside with
  | done isGap =>
    rw [List.append_assoc]
    exact .gap isGap (.cons (by cases frame <;> decide) _)
  | next isAhead =>
    obtain ⟨before, after, isBefore, _, rfl⟩ := isAhead
    simp only [List.append_assoc, List.cons_append]
    exact .gap isBefore (.cons (by decide) _)

section Answers

variable {α β : Type}

/-- What is answered for a value where a name is read, behind any space and before any text that may
follow a value. -/
structure Answers (keys : KeyRule) (variants : Variants α) (text : List Char)
    (answer : Except Problem α) : Prop where
  front : ∃ c tail, text = c :: tail ∧ c ∉ ']' :: spaces
  read : ∀ gap more, IsGap gap → Delimited more →
    readVariant keys variants (gap ++ (text ++ more)) = answer.map (·, more)

theorem answers_of_written (variants : Variants α) {text : List Char}
    (written : Written .value text) : ∃ answer, Answers keys variants text answer := by
  obtain ⟨answer, read⟩ := exists_answer_of_written variants written
  obtain ⟨c, tail, rfl, visible, _⟩ := written.valueFront
  have every : ∀ d ∈ ']' :: spaces, d ∈ closers := by simp [closers, spaces]
  exact ⟨answer, ⟨c, tail, rfl, fun within => visible (every c within)⟩, read⟩

theorem answers_of_known {variants : Variants α} {name : String} {value : α} {text : List Char}
    (known : variants.lookup name = some value) (written : NameWritten name text) :
    Answers keys variants text (.ok value) :=
  ⟨written.front, fun _ more isGap _ => readVariant_known known isGap written more⟩

/-- Behind an answer reading goes on where the value ended. -/
theorem bind_answer {γ : Type} {first : Reader α} {next : α → Reader γ} {answer : Except Problem α}
    {further : α → Except Problem β} {last : β → Except Problem (γ × List Char)}
    {input more : List Char} (read : first input = answer.map (·, more))
    (behind : ∀ value, next value more = (further value).bind last) :
    (first >>= next) input = (answer.bind further).bind last := by
  rw [Reader.bind_apply, read]
  cases answer with
  | error problem => rfl
  | ok value => exact behind value

/-- The round of three answers: the first of them that is a problem decides. -/
def roundOf (player other : Except Problem Move) (result : Except Problem Outcome) :
    Except Problem Round :=
  player.bind fun player => other.bind fun other => result.bind fun result =>
    .ok ⟨player, other, result⟩

end Answers

section Arrays

variable {α : Type} {variants : Variants α} {kind : List Char → Prop}
variable {kinds : List (List Char → Prop)} {inside : List Char}

/-- An element is answered as its value is, behind its comma. -/
theorem Items.element {answer : Except Problem α} (count : Nat)
    (items : Items .array (count == 0) (kind :: kinds) inside)
    (answers : ∀ text, kind text → Answers keys variants text answer) (rest : List Char) :
    ∃ others, Items .array false kinds others ∧
      readElement count (readVariant keys variants) (inside ++ rest) =
        answer.map (·, others ++ rest) := by
  cases items with
  | @next _ _ _ ahead text others isAhead isItem more =>
    refine ⟨others, more, ?_⟩
    have noGap : IsGap [] := by decide
    have delimited := more.delimited rest
    have alone := (answers text isItem).read [] _ noGap delimited
    obtain ⟨c, tail, rfl, opens⟩ := (answers text isItem).front
    simp only [List.append_assoc]
    cases count with
    | zero => exact (readElement_first _ isAhead opens _).trans alone
    | succ count =>
      obtain ⟨before, after, isBefore, isAfter, rfl⟩ := isAhead
      rw [List.append_assoc, List.cons_append, readElement_later _ count isBefore]
      exact (answers _ isItem).read after _ isAfter delimited

/-- An array that ends too early is refused for its length. -/
theorem Items.tooShort (reader : Reader α) (count : Nat)
    (items : Items .array (count == 0) [] inside) (rest : List Char) :
    readElement count reader (inside ++ rest) =
      .error (.mismatch (.invalidLength count "struct RoundResult with 3 elements")) := by
  cases items with
  | done isGap =>
    rw [List.append_assoc]
    exact spaced_gap_cons _ isGap (by decide) rest

theorem Items.closed (items : Items .array false [] inside) (rest : List Char) :
    mark ']' (inside ++ rest) = .ok ((), rest) := by
  cases items with
  | done isGap =>
    rw [List.append_assoc]
    exact mark_gap isGap (by decide) rest

theorem Items.tooLong (items : Items .array false (kind :: kinds) inside) (rest : List Char) :
    mark ']' (inside ++ rest) = .error .malformed := by
  cases items with
  | next isAhead =>
    obtain ⟨before, after, isBefore, _, rfl⟩ := isAhead
    simp only [List.append_assoc, List.cons_append]
    exact (spaced_gap_cons _ isBefore (by decide) _).trans (if_neg (by decide))

/-- The first three elements of an array make the round, if the array ends behind them. -/
theorem Items.three {first second third : List Char → Prop} {player other : Except Problem Move}
    {result : Except Problem Outcome}
    (items : Items .array true (first :: second :: third :: kinds) inside)
    (isPlayer : ∀ text, first text → Answers keys moveVariants text player)
    (isOther : ∀ text, second text → Answers keys moveVariants text other)
    (isResult : ∀ text, third text → Answers keys outcomeVariants text result) (rest : List Char) :
    ∃ others, Items .array false kinds others ∧
      readElements keys (inside ++ rest) = (roundOf player other result).bind fun round =>
        (mark ']' (others ++ rest)).map fun ended => (round, ended.2) := by
  obtain ⟨_, behindFirst, playerRead⟩ := items.element 0 isPlayer rest
  obtain ⟨_, behindSecond, otherRead⟩ := behindFirst.element 1 isOther rest
  obtain ⟨others, behindThird, resultRead⟩ := behindSecond.element 2 isResult rest
  refine ⟨others, behindThird, ?_⟩
  refine bind_answer playerRead fun player => ?_
  refine bind_answer otherRead fun other => ?_
  refine bind_answer resultRead fun result => ?_
  rw [Reader.bind_apply]
  cases mark ']' (others ++ rest) <;> rfl

end Arrays

section Objects

variable {α : Type} {variants : Variants α} {answer : Except Problem α} {slots : Slots}
variable {fill : α → Slots} {field : Round.Field} {value : List Char} {first : Bool}

private theorem readAhead_of_ahead {ahead : List Char} (isAhead : Ahead first ahead)
    (input : List Char) :
    readAhead first (ahead ++ '"' :: input) = .ok (true, input) := by
  cases first with
  | true => exact readAhead_first isAhead input
  | false =>
    obtain ⟨before, after, isBefore, isAfter, rfl⟩ := isAhead
    rw [List.append_assoc, List.cons_append]
    exact readAhead_comma isBefore isAfter input

/-- A member of a field that has not been there is answered as its value is. -/
private theorem readNext_keyed (answers : Answers keys variants value answer)
    (unread : slots.has field = false)
    (reads : readField keys slots field = do return fill (← readVariant keys variants))
    {ahead text more : List Char} (isAhead : Ahead first ahead) (keyed : Keyed field value text)
    (delimited : Delimited more) :
    readNext keys first slots (ahead ++ (text ++ more)) =
      answer.map fun found => (some (fill found), more) := by
  cases keyed with
  | @member key before after isKey isBefore isAfter =>
    simp only [List.cons_append, List.append_assoc]
    have unrepeated : ¬ slots.has field = true := by rw [unread]; exact nofun
    rw [readNext, Reader.bind_of_ok (readAhead_of_ahead isAhead _), if_pos rfl,
      Reader.bind_of_ok (readText_spells isKey _), String.ofList_toList, readMember,
      Round.Field.ofKey?_key]
    simp only [if_neg unrepeated, reads]
    rw [Reader.bind_apply, Reader.bind_of_ok (mark_gap isBefore (by decide) _),
      Reader.bind_pure_eq, answers.read after more isAfter delimited]
    cases answer <;> rfl

variable {kinds : List (List Char → Prop)} {inside : List Char}

/-- Behind a member reading goes on with one field more, if the value of the member is one. -/
theorem Items.member {further : α → Except Problem Round}
    (items : Items .object first (Keyed field value :: kinds) inside)
    (answers : Answers keys variants value answer) (unread : slots.has field = false)
    (reads : readField keys slots field = do return fill (← readVariant keys variants))
    {rest : List Char}
    (behind : ∀ found others, Items .object false kinds others →
      readMembers keys false (fill found) (others ++ rest) = (further found).map (·, rest)) :
    readMembers keys first slots (inside ++ rest) = (answer.bind further).map (·, rest) := by
  cases items with
  | @next _ _ _ ahead text others isAhead isItem more =>
    have member := readNext_keyed answers unread reads isAhead isItem (more.delimited rest)
    simp only [List.append_assoc]
    rw [readMembers_eq, member]
    cases answer with
    | error problem => rfl
    | ok found => exact behind found others more

theorem Items.completed (items : Items .object false [] inside) (slots : Slots) (rest : List Char) :
    readMembers keys false slots (inside ++ rest) = slots.complete.map (·, rest) := by
  cases items with
  | done isGap =>
    rw [List.append_assoc, readMembers_eq]
    have ended : readNext keys false slots (_ ++ '\x7d' :: rest) = .ok (none, rest) :=
      Reader.bind_of_ok (readAhead_close false isGap rest) _
    exact congrArg (Except.bind · _) ended

/-- The three members of a round make the round. -/
theorem Items.round {first second third : List Char} {player other : Except Problem Move}
    {result : Except Problem Outcome}
    (items : Items .object true [Keyed .player first, Keyed .other second, Keyed .result third]
      inside)
    (isPlayer : Answers keys moveVariants first player)
    (isOther : Answers keys moveVariants second other)
    (isResult : Answers keys outcomeVariants third result) (rest : List Char) :
    readMembers keys true .empty (inside ++ rest) =
      (roundOf player other result).map (·, rest) := by
  refine items.member isPlayer rfl rfl fun player _ items => ?_
  refine items.member isOther rfl rfl fun other _ items => ?_
  refine items.member isResult rfl rfl fun result _ items => ?_
  exact items.completed _ rest

end Objects

section Rounds

private theorem readRound_array {gap : List Char} (isGap : IsGap gap) (input : List Char) :
    readRound keys (gap ++ '[' :: input) = readElements keys input :=
  spaced_gap_cons _ isGap (by decide) _

variable {text : String}

/-- An array is decoded as its elements are read, and from its closing bracket on nothing changes
the answer. -/
theorem exists_elements {kinds : List (List Char → Prop)}
    (framed : Padded (Framed .array kinds) text.toList) :
    ∃ inside gap, Items .array true kinds inside ∧ IsGap gap ∧
      readRound keys text.toList = readElements keys (inside ++ gap) := by
  generalize text.toList = input at framed
  obtain ⟨isBefore, ⟨items⟩, isAfter⟩ := framed
  exact ⟨_, _, items, isAfter, readRound_array isBefore _⟩

private theorem decode_array {first second third : List Char} {player other : Except Problem Move}
    {result : Except Problem Outcome}
    (framed : Padded (Framed .array [(· = first), (· = second), (· = third)]) text.toList)
    (isPlayer : Answers keys moveVariants first player)
    (isOther : Answers keys moveVariants second other)
    (isResult : Answers keys outcomeVariants third result) :
    decode (readRound keys) text = roundOf player other result := by
  obtain ⟨inside, gap, items, isGap, read⟩ := exists_elements framed
  obtain ⟨others, behind, elements⟩ := items.three (fun _ same => same ▸ isPlayer)
    (fun _ same => same ▸ isOther) (fun _ same => same ▸ isResult) gap
  apply decode_of_answer isGap
  rw [read, elements, behind.closed]
  rfl

private theorem decode_object {first second third : List Char} {player other : Except Problem Move}
    {result : Except Problem Outcome}
    (framed : Padded
      (Framed .object [Keyed .player first, Keyed .other second, Keyed .result third]) text.toList)
    (isPlayer : Answers keys moveVariants first player)
    (isOther : Answers keys moveVariants second other)
    (isResult : Answers keys outcomeVariants third result) :
    decode (readRound keys) text = roundOf player other result := by
  generalize same : text.toList = input at framed
  obtain ⟨isBefore, ⟨items⟩, isAfter⟩ := framed
  apply decode_of_answer isAfter
  rw [same]
  exact (readRound_object isBefore _).trans (items.round isPlayer isOther isResult _)

/-- Whether names are names of the fields of a round in their order, as far as there are fields. -/
def FitsFields (names : List String) : Prop :=
  ∀ entry ∈ [Round.Field.player, .other, .result].zip names, entry.2 ∈ fieldNames entry.1

instance (names : List String) : Decidable (FitsFields names) := List.decidableBAll _ _

private theorem exists_move (keys : KeyRule) {name : String} (fits : name ∈ fieldNames .player) :
    ∃ move : Move, move.name = name ∧
      ∀ text, NameWritten name text → Answers keys moveVariants text (.ok move) := by
  obtain ⟨move, known, isName⟩ := @lookup_of_mem _ Move.all Move.name name fits
  exact ⟨move, isName, fun _ written => answers_of_known known written⟩

private theorem exists_outcome (keys : KeyRule) {name : String} (fits : name ∈ fieldNames .result) :
    ∃ outcome : Outcome, outcome.name = name ∧
      ∀ text, NameWritten name text → Answers keys outcomeVariants text (.ok outcome) := by
  obtain ⟨outcome, known, isName⟩ := @lookup_of_mem _ Outcome.all Outcome.name name fits
  exact ⟨outcome, isName, fun _ written => answers_of_known known written⟩

private theorem invalidLength_message (count : Nat) :
    (Mismatch.invalidLength count "struct RoundResult with 3 elements").message =
      "invalid length " ++ count.repr ++ ", expected struct RoundResult with 3 elements" := by
  unfold Mismatch.message
  apply String.toList_inj.mp
  simp

private theorem readElements_short {names : List String} {inside : List Char}
    (items : Items .array true (names.map NameWritten) inside) (fits : FitsFields names)
    (short : names.length < 3) (rest : List Char) :
    readElements keys (inside ++ rest) = .error (.mismatch
      (.invalidLength names.length "struct RoundResult with 3 elements")) := by
  match names, short with
  | [], _ => exact Reader.bind_of_error (items.tooShort _ 0 rest) _
  | [first], _ =>
    obtain ⟨player, _, answers⟩ := exists_move keys (fits (.player, first) (by simp))
    obtain ⟨_, behindFirst, read⟩ := items.element 0 answers rest
    rw [readElements, Reader.bind_of_ok read]
    exact Reader.bind_of_error (behindFirst.tooShort _ 1 rest) _
  | [first, second], _ =>
    obtain ⟨player, _, answers⟩ := exists_move keys (fits (.player, first) (by simp))
    obtain ⟨other, _, otherAnswers⟩ := exists_move keys (fits (.other, second) (by simp))
    obtain ⟨_, behindFirst, read⟩ := items.element 0 answers rest
    obtain ⟨_, behindSecond, otherRead⟩ := behindFirst.element 1 otherAnswers rest
    rw [readElements, Reader.bind_of_ok read, Reader.bind_of_ok otherRead]
    exact Reader.bind_of_error (behindSecond.tooShort _ 2 rest) _

/-- Three names that fit make a round, whatever stands behind them up to the end of the array. -/
theorem readElements_long {names : List String} {inside : List Char}
    (items : Items .array true (names.map NameWritten) inside) (fits : FitsFields names)
    (long : 3 ≤ names.length) (rest : List Char) :
    ∃ round : Round, ∃ more others,
      names = [.player, .other, .result].map round.fieldName ++ more ∧
        Items .array false (more.map NameWritten) others ∧
        readElements keys (inside ++ rest) =
          (mark ']' (others ++ rest)).map fun ended => (round, ended.2) := by
  match names, long with
  | first :: second :: third :: more, _ =>
    obtain ⟨player, rfl, answers⟩ := exists_move keys (fits (.player, first) (by simp))
    obtain ⟨other, rfl, otherAnswers⟩ := exists_move keys (fits (.other, second) (by simp))
    obtain ⟨result, rfl, resultAnswers⟩ := exists_outcome keys (fits (.result, third) (by simp))
    obtain ⟨others, behind, elements⟩ := items.three answers otherAnswers resultAnswers rest
    exact ⟨⟨player, other, result⟩, more, others, rfl, behind, elements⟩

end Rounds

end Roshambo.Json

namespace Roshambo

open Json

/-- A round is answered alike in both forms, whatever the three values are; and an array of fitting
names is a round only if it has three. -/
theorem Round.ofJson_forms :
    (∀ (first second third : List Char) (array object : String),
      Written .value first → Written .value second → Written .value third →
      Padded (Framed .array [(· = first), (· = second), (· = third)]) array.toList →
      Padded (Framed .object [Keyed .player first, Keyed .other second, Keyed .result third])
        object.toList →
      Round.ofJson array = Round.ofJson object) ∧
    ∀ (names : List String) (text : String), FitsFields names →
      Padded (Framed .array (names.map NameWritten)) text.toList →
      (names.length < 3 → ∃ mismatch, Round.ofJson text = .error (.mismatch mismatch) ∧
        mismatch.message = "invalid length " ++ names.length.repr ++
          ", expected struct RoundResult with 3 elements") ∧
      (names.length = 3 → ∃ round, Round.ofJson text = .ok round ∧
        names = [.player, .other, .result].map round.fieldName) ∧
      (3 < names.length → Round.ofJson text = .error .malformed) := by
  constructor
  · intro first second third array object isFirst isSecond isThird inArray inObject
    obtain ⟨player, isPlayer⟩ := answers_of_written moveVariants isFirst
    obtain ⟨other, isOther⟩ := answers_of_written moveVariants isSecond
    obtain ⟨result, isResult⟩ := answers_of_written outcomeVariants isThird
    exact (decode_array inArray isPlayer isOther isResult).trans
      (decode_object inObject isPlayer isOther isResult).symm
  · intro names text fits framed
    obtain ⟨inside, gap, items, isGap, read⟩ := exists_elements framed
    refine ⟨fun short => ?_, fun exactly => ?_, fun long => ?_⟩
    · refine ⟨.invalidLength names.length "struct RoundResult with 3 elements", ?_,
        invalidLength_message names.length⟩
      rw [Round.ofJson, Round.ofJsonUnder, decode, read, readElements_short items fits short]
    · obtain ⟨round, more, others, same, behind, elements⟩ :=
        readElements_long items fits (Nat.le_of_eq exactly.symm) gap
      have length := congrArg List.length same
      rw [exactly, List.length_append, List.length_map] at length
      have none : more = [] := List.eq_nil_of_length_eq_zero (Nat.add_left_cancel length.symm)
      rw [none, List.append_nil] at same
      rw [none] at behind
      refine ⟨round, decode_of_answer isGap ?_, same⟩
      rw [read, elements, behind.closed]
      rfl
    · obtain ⟨round, more, others, same, behind, elements⟩ :=
        readElements_long items fits (Nat.le_of_lt long) gap
      have length := congrArg List.length same
      rw [List.length_append, List.length_map] at length
      cases more with
      | nil =>
        rw [length] at long
        exact absurd long (Nat.lt_irrefl 3)
      | cons fourth more =>
        rw [Round.ofJson, Round.ofJsonUnder, decode, read, elements, behind.tooLong]
        rfl

/-- A name, an object around an array in the place of another, and null: the two forms, with space
in the array. And two names in an array. -/
theorem Round.ofJson_forms_nested :
    let nested : List Char := "\x7b\"a\":[1]\x7d".toList
    let array : String := "[\"Rock\" , \x7b\"a\":[1]\x7d,null] "
    let object : String :=
      "\x7b\"player_move\":\"Rock\",\"other_move\":\x7b\"a\":[1]\x7d,\"result\":null\x7d"
    let pair : String := "[\"Rock\",\"Paper\"]"
    Written .value nested ∧ Round.ofJson array = Round.ofJson object ∧
      FitsFields ["Rock", "Paper"] ∧ ∃ mismatch, Round.ofJson pair = .error (.mismatch mismatch) ∧
        mismatch.message = "invalid length " ++ Nat.repr 2 ++
          ", expected struct RoundResult with 3 elements" := by
  intro nested array object pair
  have noGap : IsGap [] := by decide
  have space : IsGap [' '] := by decide
  have comma : Ahead false [','] := ⟨[], [], noGap, noGap, rfl⟩
  have spacedComma : Ahead false [' ', ',', ' '] := ⟨[' '], [' '], space, space, rfl⟩
  have isRock : Written .value "\"Rock\"".toList := by
    have rock : Spells ByAnyUnit "Rock".toList "Rock".toList := spells_self (by decide)
    exact .scalar (.string rock)
  have isNested : Written .value nested := by
    have key : Spells ByAnyUnit ['a'] ['a'] := spells_self (by decide)
    have digits : IsWhole ['1'] := ⟨⟨by simp, by simp⟩, by rintro tail ⟨⟩⟩
    have one : IsNumber (['1'] ++ ([] ++ [])) := .parts List.mem_cons_self digits .none .none
    exact .filled (.last (.item noGap (.key key noGap) noGap
      (.filled (.last (.item noGap .none noGap (.scalar (.number one)) noGap))) noGap))
  have inArray : Padded (Framed .array [(· = "\"Rock\"".toList), (· = nested),
      (· = "null".toList)]) array.toList := by
    have items : Items .array true
        [(· = "\"Rock\"".toList), (· = nested), (· = "null".toList)] _ :=
      .next noGap rfl (.next spacedComma rfl (.next comma rfl (.done noGap)))
    apply (congrArg (Padded _) ?_).mpr (.between noGap (.brackets items) space)
    decide +kernel
  have inObject : Padded (Framed .object [Keyed .player "\"Rock\"".toList, Keyed .other nested,
      Keyed .result "null".toList]) object.toList := by
    have keyed (field : Round.Field) (value : List Char) : Keyed field value
        ('"' :: (field.key.toList ++ '"' :: ':' :: value)) :=
      .member (spells_self (by cases field <;> decide)) noGap noGap
    have items : Items .object true [Keyed .player "\"Rock\"".toList, Keyed .other nested,
        Keyed .result "null".toList] _ :=
      .next noGap (keyed _ _) (.next comma (keyed _ _) (.next comma (keyed _ _) (.done noGap)))
    apply (congrArg (Padded _) ?_).mpr (.between noGap (.brackets items) noGap)
    decide +kernel
  have fits : FitsFields ["Rock", "Paper"] := by decide
  have inPair : Padded (Framed .array (["Rock", "Paper"].map NameWritten)) pair.toList := by
    have rock : NameWritten "Rock" _ := .string (spells_self (by decide))
    have paper : NameWritten "Paper" _ := .string (spells_self (by decide))
    have items : Items .array true (["Rock", "Paper"].map NameWritten) _ :=
      .next noGap rock (.next comma paper (.done noGap))
    apply (congrArg (Padded _) ?_).mpr (.between noGap (.brackets items) noGap)
    decide +kernel
  exact ⟨isNested,
    ofJson_forms.1 _ nested _ array object isRock isNested (.scalar .null) inArray inObject,
    fits, (ofJson_forms.2 ["Rock", "Paper"] pair fits inPair).1 (by decide)⟩

end Roshambo
