import Roshambo.Proofs.Json.Members
import Roshambo.Proofs.Json.Passed

/-! # The texts that stand for a round

`RoundWritten` is the grammar of a round: an array of three names in order, or an object in which
each field has a name exactly once, among members with other keys and any values. Space may stand
around the value and between its parts, and nothing else. The main statement is
`Round.ofJson_eq_ok_iff`: these texts are decoded to their round, and no other text is decoded.
-/

namespace Roshambo.Json

variable {keys : KeyRule}

/-- The texts of a kind with any space around them. -/
inductive Padded (kind : List Char → Prop) : List Char → Prop
  | between {before text after : List Char} (isBefore : IsGap before) (within : kind text)
      (isAfter : IsGap after) : Padded kind (before ++ (text ++ after))

inductive ArrayWritten (round : Round) : List Char → Prop
  | elements {player other result : List Char}
      (isPlayer : Padded (NameWritten (round.fieldName .player)) player)
      (isOther : Padded (NameWritten (round.fieldName .other)) other)
      (isResult : Padded (NameWritten (round.fieldName .result)) result) :
      ArrayWritten round ('[' :: (player ++ ',' :: (other ++ ',' :: (result ++ [']']))))

/-- The name that a member gives to a field. -/
def Member.nameOf? (asked : Round.Field) : Member → Option String
  | known field name => if field = asked then some name else none
  | unknown _ _ => none

/-- The names that some members give to a field, in turn. -/
def namesGiven (members : List Member) (field : Round.Field) : List String :=
  members.filterMap (Member.nameOf? field)

theorem namesGiven_cons (member : Member) (members : List Member) (field : Round.Field) :
    namesGiven (member :: members) field =
      (member.nameOf? field).toList ++ namesGiven members field := by
  rw [namesGiven, List.filterMap_cons]
  cases member.nameOf? field <;> rfl

/-- The texts of a round. In an object every field is there once, with its name. -/
inductive RoundWritten (round : Round) : List Char → Prop
  | array {text : List Char} (written : Padded (ArrayWritten round) text) : RoundWritten round text
  | object {members : List Member} {text : List Char} (written : ObjectWritten members text)
      (once : ∀ field, namesGiven members field = [round.fieldName field]) :
      RoundWritten round text

section Members

/-- Whether a member gives the names that there are behind it and not before. -/
def Member.Gives (member : Member) (before after : Names) : Prop :=
  ∀ field, (after field).toList = (before field).toList ++ (member.nameOf? field).toList

theorem gives_known {names : Names} {field : Round.Field} (unnamed : names field = none)
    (name : String) : (Member.known field name).Gives names (names.give field name) := by
  intro asked
  by_cases same : asked = field
  · rw [same, unnamed, Names.give, if_pos rfl, Member.nameOf?, if_pos rfl]
    rfl
  · rw [Names.give, if_neg same, Member.nameOf?, if_neg (Ne.symm same)]
    exact (List.append_nil _).symm

private theorem readField_takes (slots : Slots) (field : Round.Field) :
    (readField keys slots field).Takes
    fun next text => ∃ name, next.names = slots.names.give field name ∧
      Indented (NameWritten name) text := by
  intro input rest next read
  cases field with
  | player | other | result =>
    obtain ⟨value, text, _, named, behind, rfl⟩ := readVariant_takes.bind_eq_ok read
    cases behind
    refine ⟨text, ⟨_, ?_, named⟩, rfl⟩
    funext field
    cases field <;> rfl

private theorem key_of_ofKey? {key : String} {field : Round.Field}
    (known : Round.Field.ofKey? key = some field) : field.key = key := by
  rw [Round.Field.ofKey?] at known
  have isKey := List.find?_some known
  exact beq_iff_eq.mp isKey

private theorem readMember_takes (slots : Slots) (key : String) : (readMember keys slots key).Takes
    fun next body => ∃ member : Member, member.Gives slots.names next.names ∧
      ∀ written, Spells ByCode key.toList written →
        MemberWritten member ('"' :: (written ++ '"' :: body)) := by
  intro input rest next read
  cases known : Round.Field.ofKey? key with
  | some field =>
    have isKey := key_of_ofKey? known
    simp only [readMember, known] at read
    split at read
    · cases read
    · next unread =>
      have unnamed : slots.names field = none := by
        rwa [Slots.has_eq, Option.not_isSome_iff_eq_none] at unread
      obtain ⟨_, _, _, ⟨before, _, isBefore, rfl, rfl⟩, behind, rfl⟩ :=
        (mark_takes _).bind_eq_ok read
      obtain ⟨_, ⟨name, names, after, value, isAfter, named, rfl⟩, rfl⟩ :=
        readField_takes slots field behind
      refine ⟨before ++ ':' :: (after ++ value), ⟨.known field name, ?_, ?_⟩, ?_⟩
      · rw [names]
        exact gives_known unnamed name
      · intro written spells
        rw [← isKey] at spells
        exact .known spells isBefore isAfter named
      · simp only [List.append_assoc, List.cons_append, List.nil_append]
  | none =>
    have foreign : ∀ field, Round.Field.key field ≠ key := by
      rintro field rfl
      rw [Round.Field.ofKey?_key] at known
      cases known
    simp only [readMember, known] at read
    obtain ⟨_, _, _, ⟨before, _, isBefore, rfl, rfl⟩, behindColon, rfl⟩ :=
      (mark_takes _).bind_eq_ok read
    obtain ⟨_, _, _, ⟨after, value, isAfter, valued, rfl⟩, behind, rfl⟩ :=
      skipValue_takes.bind_eq_ok behindColon
    cases behind
    refine ⟨before ++ ':' :: (after ++ value), ⟨.unknown key foreign, ?_, ?_⟩, ?_⟩
    · exact fun field => (List.append_nil _).symm
    · exact fun written spells => .unknown spells isBefore isAfter valued
    · simp only [List.append_assoc, List.cons_append, List.nil_append]

/-- What stands before a member: a comma and space around it, but no comma before the first. -/
def Ahead : Bool → List Char → Prop
  | true, text => IsGap text
  | false, text => ∃ before after, IsGap before ∧ IsGap after ∧ text = before ++ ',' :: after

private theorem readAhead_takes (first : Bool) : (readAhead first).Takes fun more text =>
    if more then ∃ ahead, Ahead first ahead ∧ text = ahead ++ ['"']
    else Indented (· = ['\x7d']) text := by
  intro input rest more read
  obtain ⟨gap, isGap, whole⟩ := exists_skipSpace input
  simp only [readAhead, Reader.spaced] at read
  split at read
  · cases read
  · next tail front =>
    cases read
    refine ⟨gap ++ ['\x7d'], ⟨gap, _, isGap, rfl, rfl⟩, ?_⟩
    rw [whole, front, List.append_assoc]
    rfl
  · next c tail _ front =>
    rw [front] at whole
    split at read
    · next isFirst =>
      obtain ⟨_, _, _, ⟨space, _, isSpace, rfl, rfl⟩, behind, quote⟩ :=
        (mark_takes _).bind_eq_ok read
      cases behind
      refine ⟨gap ++ space ++ ['"'], ⟨gap ++ space, ?_, rfl⟩, ?_⟩
      · rw [isFirst]
        exact isGap.append isSpace
      · rw [whole, quote]
        simp only [List.append_assoc]
    · next isLater =>
      split at read
      · next isComma =>
        obtain ⟨_, _, _, ⟨space, _, isSpace, rfl, rfl⟩, behind, rfl⟩ :=
          (mark_takes _).bind_eq_ok read
        cases behind
        refine ⟨gap ++ ',' :: space ++ ['"'], ⟨gap ++ ',' :: space, ?_, rfl⟩, ?_⟩
        · rw [Bool.eq_false_iff.mpr isLater]
          exact ⟨gap, space, isGap, isSpace, rfl⟩
        · rw [whole, isComma]
          simp only [List.append_assoc, List.cons_append, List.nil_append]
      · cases read

/-- The texts of the members from some place on, up to the closing bracket. -/
inductive InsideWritten (first : Bool) : List Member → List Char → Prop
  | done {gap : List Char} (isGap : IsGap gap) : InsideWritten first [] (gap ++ ['\x7d'])
  | next {member : Member} {members : List Member} {ahead text others : List Char}
      (isAhead : Ahead first ahead) (written : MemberWritten member text)
      (more : OthersWritten members others) :
      InsideWritten first (member :: members) (ahead ++ (text ++ others))

theorem InsideWritten.others {members : List Member} {text : List Char}
    (inside : InsideWritten false members text) : OthersWritten members text := by
  cases inside with
  | done isGap => exact .done isGap
  | @next member members ahead text others isAhead written more =>
    obtain ⟨before, after, isBefore, isAfter, rfl⟩ := isAhead
    rw [List.append_assoc, List.cons_append]
    exact .next isBefore isAfter written more

/-- What is read as the next member is one, and what is read as the end of the members is the
closing bracket. -/
theorem readNext_takes (first : Bool) (slots : Slots) : (readNext keys first slots).Takes
    fun found text => match found with
      | some next => ∃ ahead inner, ∃ member : Member, Ahead first ahead ∧
          MemberWritten member inner ∧ member.Gives slots.names next.names ∧ text = ahead ++ inner
      | none => Indented (· = ['\x7d']) text := by
  intro input rest found read
  obtain ⟨more, text, _, isAhead, behind, rfl⟩ := (readAhead_takes first).bind_eq_ok read
  cases more with
  | false =>
    cases behind
    exact ⟨text, isAhead, rfl⟩
  | true =>
    obtain ⟨ahead, isAhead, rfl⟩ := isAhead
    obtain ⟨key, _, _, ⟨written, spells, rfl⟩, behindKey, rfl⟩ := readText_takes.bind_eq_ok behind
    obtain ⟨next, body, _, ⟨member, gives, isBody⟩, last, rfl⟩ :=
      (readMember_takes slots _).bind_eq_ok behindKey
    cases last
    rw [← String.toList_ofList (l := key)] at spells
    refine ⟨_, ⟨ahead, _, member, isAhead, isBody written spells, gives, rfl⟩, ?_⟩
    simp only [List.append_assoc, List.cons_append, List.nil_append]

private theorem names_of_complete {slots : Slots} {round : Round}
    (complete : slots.complete = .ok round)
    (field : Round.Field) : slots.names field = some (round.fieldName field) := by
  obtain ⟨player, other, result⟩ := slots
  cases player with
  | none => cases complete
  | some player =>
    cases other with
    | none => cases complete
    | some other =>
      cases result with
      | none => cases complete
      | some result =>
        cases complete
        cases field <;> rfl

private theorem readMembers_takes {first : Bool} {slots : Slots} {input rest : List Char}
    {round : Round} (read : readMembers keys first slots input = .ok (round, rest)) :
    ∃ members text, InsideWritten first members text ∧ input = text ++ rest ∧
      ∀ field, (slots.names field).toList ++ namesGiven members field =
        [round.fieldName field] := by
  -- A member that is read moves its name from the names still to come to those that are there.
  fun_induction readMembers keys first slots input with
  | case1 => cases read
  | case2 first slots input next between found ih =>
    obtain ⟨members, text, inside, whole, names⟩ := ih read
    obtain ⟨_, ⟨ahead, inner, member, isAhead, written, gives, rfl⟩, front⟩ :=
      readNext_takes first slots found
    refine ⟨member :: members, _, .next isAhead written inside.others, ?_, ?_⟩
    · rw [front, whole]
      simp only [List.append_assoc]
    · intro field
      rw [← names field, gives field, List.append_assoc, namesGiven_cons]
  | case3 first slots input left found =>
    obtain ⟨_, ⟨gap, _, isGap, rfl, rfl⟩, front⟩ := readNext_takes first slots found
    cases complete : slots.complete with
    | error problem =>
      rw [complete] at read
      cases read
    | ok value =>
      rw [complete] at read
      cases read
      refine ⟨[], _, .done isGap, front, fun field => ?_⟩
      rw [names_of_complete complete field]
      rfl

end Members

section Elements

theorem readElement_takes {α : Type} {texts : α → List Char → Prop} (count : Nat)
    {reader : Reader α} (takes : reader.Takes fun value => Indented (texts value)) :
    (readElement count reader).Takes fun value text => ∃ ahead inner, Ahead (count == 0) ahead ∧
      texts value inner ∧ text = ahead ++ inner := by
  intro input rest value read
  obtain ⟨gap, isGap, whole⟩ := exists_skipSpace input
  simp only [readElement, Reader.spaced] at read
  split at read
  · cases read
  · cases read
  · next c tail _ front =>
    rw [front] at whole
    split at read
    · next isFirst =>
      obtain ⟨_, ⟨space, inner, isSpace, isText, rfl⟩, same⟩ := takes read
      rw [isFirst]
      refine ⟨_, ⟨gap ++ space, inner, isGap.append isSpace, isText, rfl⟩, ?_⟩
      rw [whole, same]
      simp only [List.append_assoc]
    · next isLater =>
      split at read
      · next isComma =>
        obtain ⟨_, ⟨space, inner, isSpace, isText, rfl⟩, rfl⟩ := takes read
        rw [beq_eq_false_iff_ne.mpr isLater]
        refine ⟨_, ⟨_, inner, ⟨gap, space, isGap, isSpace, rfl⟩, isText, rfl⟩, ?_⟩
        rw [whole, isComma]
        simp only [List.append_assoc, List.cons_append]
      · cases read

private theorem readElements_takes :
    (readElements keys).Takes fun round text => ArrayWritten round ('[' :: text) := by
  intro input rest round read
  obtain ⟨player, _, _, ⟨first, playerText, isFirst, isPlayer, rfl⟩, behindPlayer, rfl⟩ :=
    (readElement_takes 0 readVariant_takes).bind_eq_ok read
  obtain ⟨other, _, _, ⟨_, otherText, isSecond, isOther, rfl⟩, behindOther, rfl⟩ :=
    (readElement_takes 1 readVariant_takes).bind_eq_ok behindPlayer
  obtain ⟨before, after, isBefore, isAfter, rfl⟩ := isSecond
  obtain ⟨result, _, _, ⟨_, resultText, isThird, isResult, rfl⟩, behindResult, rfl⟩ :=
    (readElement_takes 2 readVariant_takes).bind_eq_ok behindOther
  obtain ⟨last, final, isLast, isFinal, rfl⟩ := isThird
  obtain ⟨_, _, _, ⟨gap, _, isGap, rfl, rfl⟩, behind, rfl⟩ := (mark_takes _).bind_eq_ok behindResult
  cases behind
  refine ⟨_, .elements (.between isFirst isPlayer isBefore) (.between isAfter isOther isLast)
    (.between isFinal isResult isGap), ?_⟩
  simp only [List.append_assoc, List.cons_append, List.nil_append]

end Elements

private theorem readRound_takes : (readRound keys).Takes fun round text =>
    ∀ after, IsGap after → RoundWritten round (text ++ after) := by
  intro input rest round read
  obtain ⟨gap, isGap, whole⟩ := exists_skipSpace input
  simp only [readRound, Reader.spaced] at read
  split at read
  · cases read
  · next tail front =>
    obtain ⟨text, written, rfl⟩ := readElements_takes read
    refine ⟨gap ++ '[' :: text, fun after isAfter => .array ?_, ?_⟩
    · rw [List.append_assoc]
      exact .between isGap written isAfter
    · rw [whole, front, List.append_assoc]
      rfl
  · next tail front =>
    obtain ⟨members, text, inside, rfl, once⟩ := readMembers_takes read
    refine ⟨gap ++ '\x7b' :: text, fun after isAfter => ?_, ?_⟩
    · have written : ObjectWritten members (gap ++ '\x7b' :: text ++ after) := by
        cases inside with
        | done isInside =>
          simpa only [List.append_assoc, List.cons_append, List.nil_append] using
            ObjectWritten.empty isGap isInside isAfter
        | next isInside first more =>
          simpa only [List.append_assoc, List.cons_append] using
            ObjectWritten.filled isGap isInside isAfter first more
      refine .object written fun field => ?_
      have none : (Slots.empty.names field).toList = [] := by cases field <;> rfl
      rw [← once field, none, List.nil_append]
    · rw [whole, front, List.append_assoc]
      rfl
  · cases read

section Converse

variable {round : Round}

theorem fieldName_mem (round : Round) (field : Round.Field) :
    round.fieldName field ∈ fieldNames field := by
  obtain ⟨player, other, result⟩ := round
  cases field with
  | player => cases player <;> simp [Round.fieldName, Move.name, fieldNames]
  | other => cases other <;> simp [Round.fieldName, Move.name, fieldNames]
  | result => cases result <;> simp [Round.fieldName, Outcome.name, fieldNames]

private theorem round_eq_of_fieldName {other : Round}
    (same : ∀ field, round.fieldName field = other.fieldName field) : round = other := by
  have moves : ∀ first second : Move, first.name = second.name → first = second := by
    intro first second
    cases first <;> cases second <;> simp [Move.name]
  have outcomes : ∀ first second : Outcome, first.name = second.name → first = second := by
    intro first second
    cases first <;> cases second <;> simp [Outcome.name]
  obtain ⟨player, opponent, result⟩ := round
  obtain ⟨player', opponent', result'⟩ := other
  cases moves _ _ (same .player)
  cases moves _ _ (same .other)
  cases outcomes _ _ (same .result)
  rfl

private theorem foldlM_add_of_once {members : List Member} {names : Names}
    (once : ∀ field, (names field).toList ++ namesGiven members field = [round.fieldName field]) :
    members.foldlM Member.add names = .ok fun field => some (round.fieldName field) := by
  induction members generalizing names with
  | nil =>
    have same : names = fun field => some (round.fieldName field) := by
      funext field
      have named := once field
      rw [namesGiven, List.filterMap_nil, List.append_nil] at named
      exact Option.toList_eq_singleton_iff.mp named
    rw [same]
    rfl
  | cons member members ih =>
    simp only [namesGiven_cons] at once
    rw [List.foldlM_cons]
    cases member with
    | unknown key foreign => exact ih once
    | known field name =>
      have named := once field
      rw [Member.nameOf?, if_pos rfl] at named
      have unnamed : names field = none := by
        cases early : names field with
        | none => rfl
        | some other => rw [early] at named; cases named
      have isName : name = round.fieldName field := by
        rw [unnamed] at named
        exact (List.cons.inj named).1
      have added : (Member.known field name).add names = .ok (names.give field name) := by
        rw [Member.add, unnamed, isName]
        exact if_pos (fieldName_mem round field)
      rw [added]
      apply ih
      intro asked
      rw [gives_known unnamed name asked, List.append_assoc]
      exact once asked

private theorem meaning_of_once {members : List Member}
    (once : ∀ field, namesGiven members field = [round.fieldName field]) :
    meaning members = .ok fun field => some (round.fieldName field) := by
  have folded : members.foldlM Member.add (fun _ => none) = _ := foldlM_add_of_once once
  rw [meaning, folded]
  rfl

private theorem readRound_object_written {members : List Member} {text : List Char}
    (written : ObjectWritten members text)
    (once : ∀ field, namesGiven members field = [round.fieldName field]) :
    ∃ after, IsGap after ∧ readRound keys text = .ok (round, after) := by
  obtain ⟨after, isGap, agrees⟩ := readRound_written written
  rw [meaning_of_once once] at agrees
  rcases read : readRound keys text with problem | ⟨value, rest⟩
  · rw [read] at agrees
    cases problem <;> exact agrees.elim
  · rw [read] at agrees
    obtain ⟨named, rfl⟩ := agrees
    have same := round_eq_of_fieldName fun field => Option.some.inj (named field)
    exact ⟨rest, isGap, by rw [same]⟩

theorem NameWritten.front {name : String} {text : List Char} (written : NameWritten name text) :
    ∃ c tail, text = c :: tail ∧ c ∉ ']' :: spaces := by
  cases written with
  | string => exact ⟨'"', _, rfl, by decide⟩
  | tagged => exact ⟨'\x7b', _, rfl, by decide⟩

theorem readElement_first {α : Type} (reader : Reader α) {gap : List Char} {c : Char}
    (isGap : IsGap gap) (opens : c ∉ ']' :: spaces) (input : List Char) :
    readElement 0 reader (gap ++ c :: input) = reader (c :: input) := by
  have visible : c ∉ spaces := fun within => opens (List.mem_cons_of_mem _ within)
  apply (spaced_gap_cons _ isGap visible input).trans
  simp only
  split
  · next same => cases same
  · next same => cases same; exact absurd List.mem_cons_self opens
  · next same => cases same; rfl

theorem readElement_later {α : Type} (reader : Reader α) {gap : List Char} (count : Nat)
    (isGap : IsGap gap) (input : List Char) :
    readElement (count + 1) reader (gap ++ ',' :: input) = reader input :=
  spaced_gap_cons _ isGap (by decide) _

theorem lookup_move (move : Move) : moveVariants.lookup move.name = some move := by
  cases move <;> decide

theorem lookup_outcome (outcome : Outcome) :
    outcomeVariants.lookup outcome.name = some outcome := by
  cases outcome <;> decide

section Known

variable {α : Type} {variants : Variants α} {name : String} {value : α}
variable {before gap text : List Char}

theorem readVariant_known (known : variants.lookup name = some value) (isGap : IsGap gap)
    (written : NameWritten name text) (rest : List Char) :
    readVariant keys variants (gap ++ (text ++ rest)) = .ok (value, rest) := by
  rw [readVariant_written variants isGap written, named_of_some variants known]
  rfl

private theorem readElement_first_known (known : variants.lookup name = some value)
    (isGap : IsGap gap) (written : NameWritten name text) (rest : List Char) :
    readElement 0 (readVariant keys variants) (gap ++ (text ++ rest)) = .ok (value, rest) := by
  have noGap : IsGap [] := by decide
  have read : readVariant keys variants (text ++ rest) = .ok (value, rest) :=
    readVariant_known known noGap written rest
  obtain ⟨c, tail, rfl, opens⟩ := written.front
  exact (readElement_first _ isGap opens _).trans read

theorem readElement_later_known (count : Nat) (known : variants.lookup name = some value)
    (isBefore : IsGap before) (isGap : IsGap gap) (written : NameWritten name text)
    (rest : List Char) :
    readElement (count + 1) (readVariant keys variants) (before ++ ',' :: (gap ++ (text ++ rest))) =
      .ok (value, rest) :=
  (readElement_later _ count isBefore _).trans (readVariant_known known isGap written rest)

end Known

private theorem readElements_written {text : List Char} (written : ArrayWritten round ('[' :: text))
    (rest : List Char) : readElements keys (text ++ rest) = .ok (round, rest) := by
  obtain ⟨⟨isFirst, isPlayer, isBefore⟩, ⟨isAfter, isOther, isLast⟩, ⟨isFinal, isResult, isGap⟩⟩ :=
    written
  simp only [List.append_assoc, List.cons_append, List.nil_append]
  rw [readElements,
    Reader.bind_of_ok (readElement_first_known (lookup_move round.player) isFirst isPlayer _),
    Reader.bind_of_ok (readElement_later_known 0 (lookup_move round.other) isBefore isAfter
      isOther _),
    Reader.bind_of_ok (readElement_later_known 1 (lookup_outcome round.result) isLast isFinal
      isResult _),
    Reader.bind_of_ok (mark_gap isGap (by decide) rest)]
  rfl

private theorem readRound_array_written {text : List Char}
    (written : Padded (ArrayWritten round) text) :
    ∃ after, IsGap after ∧ readRound keys text = .ok (round, after) := by
  cases written with
  | @between _ _ after isBefore within isAfter =>
    refine ⟨after, isAfter, ?_⟩
    cases within with
    | elements isPlayer isOther isResult =>
      apply (spaced_gap_cons _ isBefore (by decide) _).trans
      exact readElements_written (.elements isPlayer isOther isResult) after

end Converse

/-- What is read up to some space is the answer. -/
theorem decode_of_answer {α : Type} {reader : Reader α} {text : String}
    {answer : Except Problem α} {gap : List Char} (isGap : IsGap gap)
    (read : reader text.toList = answer.map (·, gap)) : decode reader text = answer := by
  rw [decode_eq, read]
  cases answer with
  | error problem => rfl
  | ok value => exact if_pos (skipSpace_isGap isGap)

/-- What is decoded is taken by the reader, up to some space. -/
theorem exists_of_decode {α : Type} {reader : Reader α} {texts : α → List Char → Prop}
    (takes : reader.Takes texts) {text : String} {value : α}
    (decoded : decode reader text = .ok value) :
    ∃ taken after, texts value taken ∧ IsGap after ∧ text.toList = taken ++ after := by
  rw [decode] at decoded
  split at decoded
  · next found rest read =>
    split at decoded
    · next nothing =>
      cases decoded
      obtain ⟨taken, isText, whole⟩ := takes read
      exact ⟨taken, rest, isText, isGap_of_skipSpace nothing, whole⟩
    · cases decoded
  · cases decoded

private theorem memberWritten_jsonMember (round : Round) (field : Round.Field) :
    MemberWritten (.known field (round.fieldName field)) (round.jsonMember field).toList := by
  have noGap : IsGap [] := by decide
  have plainKey : IsPlain field.key.toList := by cases field <;> decide
  have plainNames : ∀ name ∈ fieldNames field, IsPlain name.toList := by
    cases field <;> decide
  have plainName := plainNames _ (fieldName_mem round field)
  have member : MemberWritten (.known field (round.fieldName field)) _ :=
    .known (spells_self plainKey) noGap noGap (.string (spells_self plainName))
  simpa [Round.jsonMember] using member

private theorem roundWritten_of_decode {text : String} {round : Round}
    (decoded : decode (readRound keys) text = .ok round) : RoundWritten round text.toList := by
  obtain ⟨taken, after, written, isGap, whole⟩ := exists_of_decode readRound_takes decoded
  rw [whole]
  exact written after isGap

/-- A text of a round is decoded to the round. -/
theorem RoundWritten.decode {text : String} {round : Round}
    (written : RoundWritten round text.toList) : decode (readRound keys) text = .ok round := by
  have read : ∃ after, IsGap after ∧ readRound keys text.toList = .ok (round, after) := by
    cases written with
    | array written => exact readRound_array_written written
    | object written once => exact readRound_object_written written once
  obtain ⟨after, isGap, read⟩ := read
  exact @decode_of_answer _ _ _ (.ok round) _ isGap read

end Roshambo.Json

namespace Roshambo

open Json

/-- Exactly the texts of a round are decoded to it: none that breaks off, goes on behind the value,
or has a field missing or there twice. -/
theorem Round.ofJson_eq_ok_iff (text : String) (round : Round) :
    Round.ofJson text = .ok round ↔ RoundWritten round text.toList := by
  constructor
  · intro decoded
    exact roundWritten_of_decode decoded
  · intro written
    exact written.decode

/-- A round is decoded from the form in which it is printed. -/
theorem Round.ofJson_json (round : Round) : Round.ofJson round.json = .ok round := by
  have noGap : IsGap [] := by decide
  have member := memberWritten_jsonMember round
  have members : ObjectWritten ([.player, .other, .result].map fun field =>
      .known field (round.fieldName field)) round.json.toList := by
    have written := ObjectWritten.filled noGap noGap noGap (member .player)
      (.next noGap noGap (member .other) (.next noGap noGap (member .result) (.done noGap)))
    simpa [Round.json] using written
  exact (RoundWritten.object members fun field => by cases field <;> rfl).decode

example : (Round.ofJson ("\x7b\"player_move\":\"Rock\",\"other_move\":\"Paper\"," ++
    "\"result\":\"Loss\",\"note\":[0]\x7d")).toOption = some (.ofMoves .rock .paper) := by
  decide +kernel

example : (Round.ofJson ("\x7b\"player_move\":\"Rock\",\"other_move\":\"Paper\"," ++
    "\"result\":\"Loss\",\"note\":[0,]\x7d")).toOption = none := by
  decide +kernel

end Roshambo
