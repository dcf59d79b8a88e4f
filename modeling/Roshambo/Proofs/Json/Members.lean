import Roshambo.Json.RoundForm
import Roshambo.Proofs.Json.Naming
import Roshambo.Proofs.Json.Nesting

/-! # Rounds given as objects

What an object says about a round depends on its members alone. `meaning` folds them from left to
right: a field may get a name once, the name must be one that the field may have, members with
other keys do not count, and at the end no field may be without a name. The main statement is
`Round.ofJson_object`: every way to write the members, with any space and any spelling, is decoded
to what they mean.
-/

namespace Roshambo.Json

variable {keys : KeyRule}

def fieldNames : Round.Field → List String
  | .player | .other => ["Rock", "Paper", "Scissors"]
  | .result => ["Win", "Loss", "Draw"]

/-- The names that a field may have, as they are listed in a message. -/
def listing : Round.Field → String
  | .player | .other => "`Rock`, `Paper`, `Scissors`"
  | .result => "`Win`, `Loss`, `Draw`"

/-- One member of an object: a name for a field, or a key that belongs to no field. -/
inductive Member where
  | known (field : Round.Field) (name : String)
  | unknown (key : String) (foreign : ∀ field, Round.Field.key field ≠ key)

/-- The names that the fields have so far. -/
abbrev Names := Round.Field → Option String

def Names.give (names : Names) (field : Round.Field) (name : String) : Names := fun asked =>
  if asked = field then some name else names asked

/-- What the names are behind a member, or what is wrong with it. -/
def Member.add (names : Names) : Member → Except String Names
  | .unknown _ _ => .ok names
  | .known field name =>
    if (names field).isSome then .error ("duplicate field `" ++ field.key ++ "`")
    else if name ∈ fieldNames field then .ok (names.give field name)
    else .error ("unknown variant `" ++ name ++ "`, expected one of " ++ listing field)

/-- The names of all fields, or the first field in order that has none. -/
def Names.close (names : Names) : Except String Names :=
  match [.player, .other, .result].find? fun field => (names field).isNone with
  | some field => .error ("missing field `" ++ Round.Field.key field ++ "`")
  | none => .ok names

/-- What the members of an object say about a round. -/
def meaning (members : List Member) : Except String Names :=
  members.foldlM Member.add (fun _ => none) >>= Names.close

inductive MemberWritten : Member → List Char → Prop
  | known {field : Round.Field} {name : String} {key before after value : List Char}
      (keyed : Spells ByCode field.key.toList key) (isBefore : IsGap before)
      (isAfter : IsGap after) (named : NameWritten name value) :
      MemberWritten (.known field name) ('"' :: (key ++ '"' :: (before ++ ':' :: (after ++ value))))
  | unknown {name : String} {foreign : ∀ field, Round.Field.key field ≠ name}
      {key before after value : List Char} (keyed : Spells ByCode name.toList key)
      (isBefore : IsGap before) (isAfter : IsGap after) (valued : Written .value value) :
      MemberWritten (.unknown name foreign)
        ('"' :: (key ++ '"' :: (before ++ ':' :: (after ++ value))))

inductive OthersWritten : List Member → List Char → Prop
  | done {gap : List Char} (isGap : IsGap gap) : OthersWritten [] (gap ++ ['\x7d'])
  | next {member : Member} {members : List Member} {before after text others : List Char}
      (isBefore : IsGap before) (isAfter : IsGap after) (first : MemberWritten member text)
      (more : OthersWritten members others) :
      OthersWritten (member :: members) (before ++ ',' :: (after ++ (text ++ others)))

/-- The texts of an object with the given members and any space around it. -/
inductive ObjectWritten : List Member → List Char → Prop
  | empty {before inside after : List Char} (isBefore : IsGap before) (isInside : IsGap inside)
      (isAfter : IsGap after) : ObjectWritten [] (before ++ '\x7b' :: (inside ++ '\x7d' :: after))
  | filled {member : Member} {members : List Member} {before inside after text others : List Char}
      (isBefore : IsGap before) (isInside : IsGap inside) (isAfter : IsGap after)
      (first : MemberWritten member text) (more : OthersWritten members others) :
      ObjectWritten (member :: members)
        (before ++ '\x7b' :: (inside ++ (text ++ (others ++ after))))

section Agrees

variable {α β γ δ : Type}

/-- Whether what was read is what should be: related values, or a mismatch with the message. -/
def Agrees (related : α → β → Prop) : Except Problem α → Except String β → Prop
  | .ok value, .ok expected => related value expected
  | .error (.mismatch mismatch), .error message => mismatch.message = message
  | _, _ => False

theorem Agrees.bind {related : α → β → Prop} {relatedNext : γ → δ → Prop}
    {read : Except Problem α} {expected : Except String β} {next : α → Except Problem γ}
    {expectedNext : β → Except String δ} (agrees : Agrees related read expected)
    (agreesNext : ∀ value other, related value other →
      Agrees relatedNext (next value) (expectedNext other)) :
    Agrees relatedNext (read.bind next) (expected >>= expectedNext) := by
  match read, expected, agrees with
  | .ok value, .ok other, agrees => exact agreesNext value other agrees
  | .error (.mismatch _), .error _, agrees => exact agrees

theorem Agrees.map {related : α → β → Prop} {relatedNext : γ → β → Prop} {read : Except Problem α}
    {expected : Except String β} {change : α → γ} (agrees : Agrees related read expected)
    (agreesNext : ∀ value other, related value other → relatedNext (change value) other) :
    Agrees relatedNext (read.map change) expected := by
  match read, expected, agrees with
  | .ok value, .ok other, agrees => exact agreesNext value other agrees
  | .error (.mismatch _), .error _, agrees => exact agrees

theorem Reader.bind_eq (first : Reader α) (next : α → Reader β) (input : List Char) :
    (first >>= next) input = (first input).bind fun found => next found.1 found.2 := by
  rw [bind_apply]
  cases first input <;> rfl

theorem Reader.bind_pure_eq (reader : Reader α) (change : α → β) (input : List Char) :
    (reader >>= fun value => pure (change value)) input =
      (reader input).map fun found => (change found.1, found.2) := by
  rw [bind_apply]
  cases reader input <;> rfl

end Agrees

namespace Slots

def names (slots : Slots) : Names
  | .player => slots.player.map Move.name
  | .other => slots.other.map Move.name
  | .result => slots.result.map Outcome.name

theorem has_eq (slots : Slots) (field : Round.Field) :
    slots.has field = (slots.names field).isSome := by
  cases field with
  | player => exact Option.isSome_map.symm
  | other => exact Option.isSome_map.symm
  | result => exact Option.isSome_map.symm

private theorem complete_agrees (slots : Slots) :
    Agrees (fun round names => ∀ field, names field = some (round.fieldName field))
      slots.complete slots.names.close := by
  obtain ⟨player, other, result⟩ := slots
  cases player with
  | none => rfl
  | some player =>
    cases other with
    | none => rfl
    | some other =>
      cases result with
      | none => rfl
      | some result =>
        intro field
        cases field <;> rfl

end Slots

theorem unknownVariant_message (field : Round.Field) (name : String) :
    (Mismatch.unknownVariant name (fieldNames field)).message =
      "unknown variant `" ++ name ++ "`, expected one of " ++ listing field := by
  have listed : ", ".intercalate ((fieldNames field).map ticked) = listing field := by
    cases field <;> decide +kernel
  unfold Mismatch.message
  apply String.toList_inj.mp
  simp [listed, ticked]

private theorem duplicateField_message (field : Round.Field) :
    (Mismatch.duplicateField field.key).message = "duplicate field `" ++ field.key ++ "`" := by
  cases field <;> decide +kernel

section Reading

variable {slots : Slots} {gap text rest : List Char} {name : String}

/-- What is read is what the names should be, and the reader stops where the member ends. -/
def Stores (rest : List Char) (found : Slots × List Char) (names : Names) : Prop :=
  found.1.names = names ∧ found.2 = rest

private theorem readVariant_agrees {α : Type} {values : List α} {nameOf : α → String}
    (isGap : IsGap gap) (named : NameWritten name text) (rest : List Char) :
    Agrees (fun found expected => nameOf found.1 = expected ∧ found.2 = rest)
      (readVariant keys (values.map fun value => (nameOf value, value)) (gap ++ (text ++ rest)))
      (if name ∈ values.map nameOf then .ok name
        else .error (Mismatch.unknownVariant name (values.map nameOf)).message) := by
  rw [readVariant_written _ isGap named]
  split
  · next known =>
    obtain ⟨value, found, hasName⟩ := lookup_of_mem known
    rw [named_of_some _ found]
    exact ⟨hasName, rfl⟩
  · next unknown =>
    have listed : (values.map fun value => (nameOf value, value)).map Prod.fst =
        values.map nameOf := by
      rw [List.map_map]
      rfl
    rw [named_of_none _ (lookup_of_not_mem unknown), listed]
    exact rfl

private theorem readField_agrees (slots : Slots) (field : Round.Field) (isGap : IsGap gap)
    (named : NameWritten name text) (rest : List Char) :
    Agrees (Stores rest) (readField keys slots field (gap ++ (text ++ rest)))
      (if name ∈ fieldNames field then .ok (slots.names.give field name)
        else .error ("unknown variant `" ++ name ++ "`, expected one of " ++ listing field)) := by
  have expected :
      (if name ∈ fieldNames field then .ok (slots.names.give field name)
        else .error ("unknown variant `" ++ name ++ "`, expected one of " ++ listing field)) =
      ((if name ∈ fieldNames field then .ok name
        else .error (Mismatch.unknownVariant name (fieldNames field)).message) >>=
          fun given => .ok (slots.names.give field given) : Except String Names) := by
    rw [unknownVariant_message]
    split <;> rfl
  rw [expected]
  cases field with
  | player | other | result =>
    rw [readField, Reader.bind_eq]
    apply (readVariant_agrees isGap named rest).bind
    rintro ⟨value, left⟩ _ ⟨rfl, rfl⟩
    refine ⟨?_, rfl⟩
    funext field
    cases field <;> rfl

private theorem ofKey?_foreign {key : String} (foreign : ∀ field, Round.Field.key field ≠ key) :
    Round.Field.ofKey? key = none := by
  rw [Round.Field.ofKey?, List.find?_eq_none]
  intro field _
  rw [beq_iff_eq]
  exact foreign field

private theorem readMember_agrees (slots : Slots) {member : Member} {body : List Char}
    (written : MemberWritten member ('"' :: body)) (delimited : Delimited rest) :
    Agrees (Stores rest)
      ((readText >>= fun key => readMember keys slots (String.ofList key)) (body ++ rest))
      (member.add slots.names) := by
  cases written with
  | @known field name key before after value keyed isBefore isAfter named =>
    simp only [List.append_assoc, List.cons_append]
    rw [Reader.bind_of_ok (readText_spells keyed _), String.ofList_toList, readMember,
      Round.Field.ofKey?_key]
    simp only [Member.add, Slots.has_eq]
    split
    · exact duplicateField_message field
    · rw [Reader.bind_of_ok (mark_gap isBefore (by decide) _)]
      exact readField_agrees slots field isAfter named rest
  | @unknown name foreign key before after value keyed isBefore isAfter valued =>
    simp only [List.append_assoc, List.cons_append]
    rw [Reader.bind_of_ok (readText_spells keyed _), String.ofList_toList, readMember,
      ofKey?_foreign foreign]
    simp only
    rw [Reader.bind_of_ok (mark_gap isBefore (by decide) _),
      Reader.bind_of_ok (skipValue_written isAfter valued delimited)]
    exact ⟨rfl, rfl⟩

theorem MemberWritten.front {member : Member} (written : MemberWritten member text) :
    ∃ body, text = '"' :: body := by
  cases written with
  | known => exact ⟨_, rfl⟩
  | unknown => exact ⟨_, rfl⟩

theorem OthersWritten.delimited {members : List Member} {others : List Char}
    (written : OthersWritten members others) (rest : List Char) : Delimited (others ++ rest) := by
  cases written with
  | done isGap =>
    rw [List.append_assoc]
    exact .gap isGap (.cons (by decide) _)
  | next isBefore =>
    rw [List.append_assoc]
    exact .gap isBefore (.cons (by decide) _)

theorem readAhead_first (isGap : IsGap gap) (input : List Char) :
    readAhead true (gap ++ '"' :: input) = .ok (true, input) := by
  apply (spaced_gap_cons _ isGap (by decide) _).trans
  exact Reader.bind_of_ok (mark_cons (by decide) input) _

theorem readAhead_comma {after : List Char} (isGap : IsGap gap) (isAfter : IsGap after)
    (input : List Char) :
    readAhead false (gap ++ ',' :: (after ++ '"' :: input)) = .ok (true, input) := by
  apply (spaced_gap_cons _ isGap (by decide) _).trans
  exact Reader.bind_of_ok (mark_gap isAfter (by decide) input) _

theorem readAhead_close (first : Bool) (isGap : IsGap gap) (input : List Char) :
    readAhead first (gap ++ '\x7d' :: input) = .ok (false, input) :=
  spaced_gap_cons _ isGap (by decide) _

theorem readMembers_eq (first : Bool) (slots : Slots) (input : List Char) :
    readMembers keys first slots input = (readNext keys first slots input).bind fun found =>
      match found with
      | (some next, rest) => readMembers keys false next rest
      | (none, rest) => slots.complete.map fun round => (round, rest) := by
  rw [readMembers]
  split
  · next failed => rw [failed]; rfl
  · next found => rw [found]; rfl
  · next found => rw [found]; rfl

/-- The round that was read has all names, and the reader stops behind the object. -/
def Yields (rest : List Char) (found : Round × List Char) (names : Names) : Prop :=
  (∀ field, names field = some (found.1.fieldName field)) ∧ found.2 = rest

theorem readMembers_close (first : Bool) (slots : Slots) (isGap : IsGap gap) :
    Agrees (Yields rest) (readMembers keys first slots (gap ++ '\x7d' :: rest))
      slots.names.close := by
  have next : readNext keys first slots (gap ++ '\x7d' :: rest) = .ok (none, rest) :=
    Reader.bind_of_ok (readAhead_close first isGap rest) _
  rw [readMembers_eq, next]
  exact slots.complete_agrees.map fun _ _ complete => ⟨complete, rfl⟩

private theorem readNext_agrees (first : Bool) (slots : Slots) {member : Member} {input : List Char}
    (written : MemberWritten member text) (delimited : Delimited rest)
    (ahead : ∀ body, text = '"' :: body → readAhead first input = .ok (true, body ++ rest)) :
    Agrees (fun found names => ∃ next, found = (some next, rest) ∧ next.names = names)
      (readNext keys first slots input) (member.add slots.names) := by
  obtain ⟨body, rfl⟩ := written.front
  have behind : (readText >>= fun key => readMember keys slots (String.ofList key) >>= fun next =>
      (pure (some next) : Reader _)) (body ++ rest) =
      ((readText >>= fun key => readMember keys slots (String.ofList key)) (body ++ rest)).map
        fun found => (some found.1, found.2) := by
    rw [Reader.bind_eq, Reader.bind_eq]
    cases readText (body ++ rest) with
    | error => rfl
    | ok found => exact Reader.bind_pure_eq _ some found.2
  rw [readNext, Reader.bind_of_ok (ahead body rfl), if_pos rfl, behind]
  apply (readMember_agrees slots written delimited).map
  rintro ⟨next, left⟩ _ ⟨rfl, rfl⟩
  exact ⟨next, rfl, rfl⟩

theorem readMembers_next (first : Bool) (slots : Slots) {member : Member} {members : List Member}
    {input after : List Char} (written : MemberWritten member text) (delimited : Delimited rest)
    (ahead : ∀ body, text = '"' :: body → readAhead first input = .ok (true, body ++ rest))
    (others : ∀ next, Agrees (Yields after) (readMembers keys false next rest)
      (members.foldlM Member.add next.names >>= Names.close)) :
    Agrees (Yields after) (readMembers keys first slots input)
      ((member :: members).foldlM Member.add slots.names >>= Names.close) := by
  rw [readMembers_eq, List.foldlM_cons, bind_assoc]
  apply (readNext_agrees first slots written delimited ahead).bind
  rintro _ _ ⟨next, rfl, rfl⟩
  exact others next

private theorem readMembers_others {members : List Member} {others : List Char}
    (written : OthersWritten members others) (slots : Slots) (rest : List Char) :
    Agrees (Yields rest) (readMembers keys false slots (others ++ rest))
      (members.foldlM Member.add slots.names >>= Names.close) := by
  induction written generalizing slots with
  | done isGap =>
    rw [List.append_assoc]
    exact readMembers_close false slots isGap
  | @next member members before after text others isBefore isAfter first more ih =>
    refine readMembers_next false slots first (more.delimited rest) ?_ ih
    rintro body rfl
    simp only [List.append_assoc, List.cons_append]
    exact readAhead_comma isBefore isAfter (body ++ (others ++ rest))

end Reading

theorem skipSpace_isGap {gap : List Char} (isGap : IsGap gap) : skipSpace gap = [] := by
  have skipped := skipSpace_gap isGap []
  rwa [List.append_nil] at skipped

theorem decode_eq {α : Type} (reader : Reader α) (text : String) :
    decode reader text = (reader text.toList).bind fun found =>
      if skipSpace found.2 = [] then .ok found.1 else .error .malformed := by
  rw [decode]
  cases reader text.toList <;> rfl

theorem readRound_object {gap : List Char} (isGap : IsGap gap) (input : List Char) :
    readRound keys (gap ++ '\x7b' :: input) = readMembers keys true .empty input :=
  spaced_gap_cons _ isGap (by decide) _

theorem readRound_written {members : List Member} {text : List Char}
    (written : ObjectWritten members text) :
    ∃ after, IsGap after ∧ Agrees (Yields after) (readRound keys text) (meaning members) := by
  have none : Slots.empty.names = fun _ => Option.none := by
    funext field
    cases field <;> rfl
  cases written with
  | @empty before inside after isBefore isInside isAfter =>
    refine ⟨after, isAfter, ?_⟩
    rw [readRound_object isBefore, meaning, ← none]
    exact readMembers_close true .empty isInside
  | @filled member members before inside after text others isBefore isInside isAfter first more =>
    refine ⟨after, isAfter, ?_⟩
    rw [readRound_object isBefore, meaning, ← none]
    refine readMembers_next true .empty first (more.delimited after) ?_ fun next =>
      readMembers_others more next after
    rintro body rfl
    exact readAhead_first isInside _

end Roshambo.Json

namespace Roshambo

open Json

/-- However the members of an object are written, it is decoded to what they mean: a round, or the
message about what is first wrong with them. -/
theorem Round.ofJson_object {members : List Member} {text : String}
    (written : ObjectWritten members text.toList) :
    Agrees (fun round names => ∀ field, names field = some (round.fieldName field))
      (Round.ofJson text) (meaning members) := by
  obtain ⟨after, isGap, agrees⟩ := readRound_written written
  rw [Round.ofJson, Round.ofJsonUnder, decode_eq, ← bind_pure (meaning members)]
  apply agrees.bind
  rintro ⟨round, left⟩ names ⟨named, rfl⟩
  rw [if_pos (skipSpace_isGap isGap)]
  exact named

def spelledObject : String :=
  "\x7b\"note\":[\x7b\x7d], \"r\\u0065sult\":\"Win\",\"player_move\":\x7b\"Rock\":null\x7d," ++
    "\"other_move\":\"Scissors\"\x7d"

def spelledMembers : List Member :=
  [.unknown "note" (by intro field; cases field <;> decide), .known .result "Win",
    .known .player "Rock", .known .other "Scissors"]

theorem Round.ofJson_spelledObject :
    ObjectWritten spelledMembers spelledObject.toList ∧
      ∃ round, Round.ofJson spelledObject = .ok round ∧ round.fieldName .player = "Rock" ∧
        round.fieldName .other = "Scissors" ∧ round.fieldName .result = "Win" := by
  have noGap : IsGap [] := by decide
  have space : IsGap [' '] := by decide
  have foreign : ∀ field, Round.Field.key field ≠ "note" := by
    intro field
    cases field <;> decide
  have note : MemberWritten (.unknown "note" foreign) _ :=
    .unknown (spells_self (by decide)) noGap noGap
      (.filled (.last (.item noGap .none noGap (.empty .object noGap) noGap)))
  have letter : SpellsUnit 'e'.toNat ['0', '0', '6', '5'] :=
    .digits ⟨by decide, .inl rfl⟩ ⟨by decide, .inl rfl⟩ ⟨by decide, .inl rfl⟩
      ⟨by decide, .inl rfl⟩
  have resultKey : Spells ByCode ('r' :: 'e' :: "sult".toList) _ :=
    .cons (.plain (by decide) (by decide) (by decide))
      (.cons (.number (.single (by decide) letter)) (spells_self (by decide)))
  have result : MemberWritten (.known .result "Win") _ :=
    .known resultKey noGap noGap (.string (spells_self (by decide)))
  have player : MemberWritten (.known .player "Rock") _ :=
    .known (spells_self (by decide)) noGap noGap
      (.tagged (spells_self (by decide)) noGap noGap noGap noGap)
  have other : MemberWritten (.known .other "Scissors") _ :=
    .known (spells_self (by decide)) noGap noGap (.string (spells_self (by decide)))
  have written := ObjectWritten.filled noGap noGap noGap note
    (.next noGap space result (.next noGap noGap player (.next noGap noGap other (.done noGap))))
  have spelled : ObjectWritten spelledMembers spelledObject.toList := by
    apply (congrArg (ObjectWritten _) ?_).mpr written
    decide +kernel
  have agrees := @Round.ofJson_object spelledMembers spelledObject spelled
  obtain ⟨names, means, isPlayer, isOther, isResult⟩ : ∃ names,
      meaning spelledMembers = .ok names ∧ names .player = some "Rock" ∧
      names .other = some "Scissors" ∧ names .result = some "Win" := ⟨_, rfl, rfl, rfl, rfl⟩
  rw [means] at agrees
  cases read : Round.ofJson spelledObject with
  | ok round =>
    rw [read] at agrees
    refine ⟨spelled, round, rfl, ?_, ?_, ?_⟩
    · exact Option.some.inj ((agrees .player).symm.trans isPlayer)
    · exact Option.some.inj ((agrees .other).symm.trans isOther)
    · exact Option.some.inj ((agrees .result).symm.trans isResult)
  | error problem =>
    rw [read] at agrees
    cases problem <;> exact agrees.elim

end Roshambo
