import Roshambo.Proofs.Json.Naming
import Roshambo.Text.Utf8

/-! # What a reader has taken

A reader that succeeds has taken the front of its input, and what it has taken is a text of the
grammar: `Reader.Takes` says so of a reader and the texts of each of its values. Here this is shown
of the readers of space, strings, numbers, scalars and named values, so nothing else is let through
where one of these is read; the main statements are `readText_takes`, `skipScalar_takes` and
`readVariant_takes`.
-/

namespace Roshambo.Json

variable {keys : KeyRule}

/-- Whether what a reader takes is always one of the texts of the value that it gives. -/
def Reader.Takes {α : Type} (reader : Reader α) (texts : α → List Char → Prop) : Prop :=
  ∀ ⦃input rest value⦄, reader input = .ok (value, rest) →
    ∃ text, texts value text ∧ input = text ++ rest

/-- A reader that succeeds has taken a text of its first part, and its second part goes on behind
it. -/
theorem Reader.Takes.bind_eq_ok {α β : Type} {first : Reader α} {next : α → Reader β}
    {texts : α → List Char → Prop} (takes : first.Takes texts) {input rest : List Char} {value : β}
    (read : (first >>= next) input = .ok (value, rest)) :
    ∃ middle text between, texts middle text ∧ next middle between = .ok (value, rest) ∧
      input = text ++ between := by
  obtain ⟨middle, between, found, behind⟩ := Reader.bind_eq_ok read
  obtain ⟨text, isText, whole⟩ := takes found
  exact ⟨middle, text, between, isText, behind, whole⟩

section Space

theorem IsGap.append {front back : List Char} (isFront : IsGap front) (isBack : IsGap back) :
    IsGap (front ++ back) := by
  intro c within
  rcases List.mem_append.mp within with within | within
  · exact isFront c within
  · exact isBack c within

/-- What is skipped as space is space. -/
theorem exists_skipSpace (input : List Char) :
    ∃ gap, IsGap gap ∧ input = gap ++ skipSpace input := by
  refine ⟨input.takeWhile isSpace, ?_, List.takeWhile_append_dropWhile.symm⟩
  intro c within
  exact (isSpace_iff c).mp (List.all_eq_true.mp List.all_takeWhile c within)

theorem isGap_of_skipSpace {input : List Char} (skipped : skipSpace input = []) : IsGap input := by
  obtain ⟨gap, isGap, whole⟩ := exists_skipSpace input
  rw [skipped, List.append_nil] at whole
  rwa [whole]

/-- The texts of a kind with any space before them. -/
def Indented (kind : List Char → Prop) (text : List Char) : Prop :=
  ∃ gap inner, IsGap gap ∧ kind inner ∧ text = gap ++ inner

/-- Behind space a reader takes what it takes elsewhere. -/
theorem Reader.Takes.spaced {α : Type} {reader : Reader α} {texts : α → List Char → Prop}
    (takes : reader.Takes texts) :
    (Reader.spaced reader).Takes fun value => Indented (texts value) := by
  intro input rest value read
  obtain ⟨gap, isGap, whole⟩ := exists_skipSpace input
  obtain ⟨inner, isText, front⟩ := takes read
  exact ⟨gap ++ inner, ⟨gap, inner, isGap, isText, rfl⟩, by rw [whole, front, List.append_assoc]⟩

theorem mark_takes (c : Char) : (mark c).Takes fun _ => Indented (· = [c]) := by
  apply Reader.Takes.spaced
  rintro (_ | ⟨d, input⟩) rest _ read
  · cases read
  · simp only at read
    split at read
    · next same =>
      cases read
      exact ⟨[c], rfl, congrArg (· :: input) same⟩
    · cases read

theorem expect_takes (word : List Char) : (expect word).Takes fun _ text => text = word := by
  intro input rest _ read
  refine ⟨word, rfl, ?_⟩
  fun_induction expect word input with
  | case1 => cases read; rfl
  | case2 => cases read
  | case3 _ _ _ ih => rw [ih read]; rfl
  | case4 => cases read

end Space

section Strings

instance (value : Nat) (c : Char) : Decidable (IsHexDigit value c) :=
  inferInstanceAs (Decidable (_ ∧ _))

theorem isHexDigit_of_read {c : Char} {value : Nat} (read : Text.hexValue? c = some value) :
    IsHexDigit value c := by
  -- No other characters than the first 128 are digits, so these can be gone through.
  have bound {d : Char} (low : d.toNat < 128) (below : c ≤ d) : c.toNat < 128 :=
    Nat.lt_of_le_of_lt below low
  have small : c.toNat < 128 := by
    simp only [Text.hexValue?, Bool.and_eq_true, decide_eq_true_eq] at read
    split at read
    · next digit => exact bound (by decide) digit.2
    split at read
    · next lower => exact bound (by decide) lower.2
    split at read
    · next upper => exact bound (by decide) upper.2
    · cases read
  have every : ∀ n < 128, ((Text.hexValue? (Char.ofNat n)).all
      fun value => decide (IsHexDigit value (Char.ofNat n))) = true := by decide
  have known := every c.toNat small
  rw [Char.ofNat_toNat, read] at known
  exact of_decide_eq_true known

private theorem spellsUnit_of_read {a b c d : Char} {unit : Nat}
    (read : unitOf? a b c d = some unit) :
    SpellsUnit unit [a, b, c, d] := by
  simp only [unitOf?, bind, Option.bind_eq_some_iff, pure, Option.some.injEq] at read
  obtain ⟨first, readFirst, second, readSecond, third, readThird, fourth, readFourth, whole⟩ := read
  have isFirst := isHexDigit_of_read readFirst
  have isSecond := isHexDigit_of_read readSecond
  have isThird := isHexDigit_of_read readThird
  have isFourth := isHexDigit_of_read readFourth
  have small := And.intro isFirst.1 (And.intro isSecond.1 (And.intro isThird.1 isFourth.1))
  have parts : unit / 4096 = first ∧ unit / 256 % 16 = second ∧ unit / 16 % 16 = third ∧
      unit % 16 = fourth := by omega
  obtain ⟨rfl, rfl, rfl, rfl⟩ := parts
  exact .digits isFirst isSecond isThird isFourth

theorem readUnit_takes : readUnit.Takes SpellsUnit := by
  intro input rest unit read
  unfold readUnit at read
  split at read
  · next a b c d tail =>
    split at read
    · next found =>
      cases read
      exact ⟨[a, b, c, d], spellsUnit_of_read found, rfl⟩
    · cases read
  · split at read <;> cases read

private theorem SpellsUnit.lt {unit : Nat} {digits : List Char} (spells : SpellsUnit unit digits) :
    unit < 0x10000 := by
  obtain ⟨⟨first, _⟩, _⟩ := spells
  omega

private theorem readNumbered_takes : readNumbered.Takes ByCode := by
  intro input rest c read
  obtain ⟨unit, digits, _, spells, behind, rfl⟩ := readUnit_takes.bind_eq_ok read
  have small := spells.lt
  split at behind
  · cases behind
  next noTrail =>
  split at behind
  · next lead =>
    obtain ⟨_, _, _, rfl, afterMarks, rfl⟩ := (expect_takes _).bind_eq_ok behind
    obtain ⟨trail, low, _, spellsLow, last, rfl⟩ := readUnit_takes.bind_eq_ok afterMarks
    split at last
    · next follows =>
      -- The code of a pair is above the halves, so it is the code of a character.
      simp only [isLead, isTrail, Bool.and_eq_true, decide_eq_true_eq] at lead follows
      have code : (ofPair unit trail).toNat =
          0x10000 + (unit - 0xD800) * 0x400 + (trail - 0xDC00) := by
        rw [ofPair]
        exact Text.toNat_ofNat_of_valid (by omega)
      generalize ofPair unit trail = c at code last
      cases last
      refine ⟨digits ++ '\\' :: 'u' :: low, .pair ?_ ?_ ?_, ?_⟩
      · omega
      · rwa [show 0xD800 + (c.toNat - 0x10000) / 0x400 = unit by omega]
      · rwa [show 0xDC00 + (c.toNat - 0x10000) % 0x400 = trail by omega]
      · rw [List.append_assoc]
        rfl
    · cases last
  · next noLead =>
    cases behind
    simp only [isLead, isTrail, Bool.and_eq_true, decide_eq_true_eq] at noTrail noLead
    have code : (Char.ofNat unit).toNat = unit := Text.toNat_ofNat_of_valid (by omega)
    refine ⟨digits, .single ?_ ?_, rfl⟩
    · rwa [code]
    · rwa [code]

private theorem skipNumbered_takes : skipNumbered.Takes ByAnyUnit := by
  intro input rest c read
  obtain ⟨unit, digits, _, spells, behind, rfl⟩ := readUnit_takes.bind_eq_ok read
  cases behind
  exact ⟨digits, ⟨rfl, unit, spells⟩, rfl⟩

private theorem shortEscapes_of_escaped? {letter c : Char} (escaped : escaped? letter = some c) :
    (letter, c) ∈ shortEscapes := by
  unfold escaped? at escaped
  split at escaped <;> cases escaped <;> decide

variable {numbered : Reader Char} {consumes : numbered.Consumes} {numbers : Numbering}

private theorem readEscape_takes (takes : numbered.Takes numbers) :
    (readEscape numbered).Takes fun c text => SpellsChar numbers c ('\\' :: text) := by
  intro input rest c read
  unfold readEscape at read
  split at read
  · cases read
  · obtain ⟨digits, counts, rfl⟩ := takes read
    exact ⟨'u' :: digits, .number counts, rfl⟩
  · next letter tail _ =>
    split at read
    · next escaped =>
      cases read
      exact ⟨[letter], .short (shortEscapes_of_escaped? escaped), rfl⟩
    · cases read

/-- A string is taken up to the first quote that is not escaped, and every character of it is one
that may stand there. -/
theorem scanText_takes (takes : numbered.Takes numbers) :
    (scanText numbered consumes).Takes fun text taken =>
      ∃ written, Spells numbers text written ∧ taken = written ++ ['"'] := by
  intro input
  fun_induction scanText numbered consumes input with
  | case1 | case3 | case4 | case6 | case7 => intro rest text read; cases read
  | case2 =>
    intro rest text read
    cases read
    exact ⟨['"'], ⟨[], .nil, rfl⟩, rfl⟩
  | case5 tail d after escape text left found _ ih =>
    intro rest text read
    cases read
    obtain ⟨piece, spells, rfl⟩ := readEscape_takes takes escape
    obtain ⟨_, ⟨written, spellsRest, rfl⟩, rfl⟩ := ih found
    refine ⟨_, ⟨'\\' :: piece ++ written, .cons spells spellsRest, rfl⟩, ?_⟩
    simp only [List.cons_append, List.append_assoc]
  | case8 c tail noQuote noEscape printable text left found ih =>
    intro rest text read
    cases read
    obtain ⟨_, ⟨written, spellsRest, rfl⟩, rfl⟩ := ih found
    have plain : SpellsChar numbers c [c] := .plain (Char.not_lt.mp printable) noQuote noEscape
    exact ⟨_, ⟨[c] ++ written, .cons plain spellsRest, rfl⟩, rfl⟩

theorem readText_takes : readText.Takes fun text taken =>
    ∃ written, Spells ByCode text written ∧ taken = written ++ ['"'] :=
  scanText_takes readNumbered_takes

theorem skipText_takes : skipText.Takes fun _ taken =>
    ∃ text written, Spells ByAnyUnit text written ∧ taken = written ++ ['"'] := by
  intro input rest _ read
  obtain ⟨text, taken, _, written, behind, front⟩ :=
    (scanText_takes skipNumbered_takes).bind_eq_ok read
  cases behind
  exact ⟨taken, ⟨text, written⟩, front⟩

end Strings

section Numbers

private theorem isDigit_of_digit? {c : Char} {digit : Nat} (found : digit? c = some digit) :
    c.isDigit ∧ digit = digitValue c := by
  rw [digit?] at found
  split at found
  · next isDigit => cases found; exact ⟨isDigit, rfl⟩
  · cases found

private theorem exists_takeDigits (input : List Char) :
    ∃ text, (∀ c ∈ text, c.isDigit) ∧ (takeDigits input).1 = text.map digitValue ∧
      input = text ++ (takeDigits input).2 := by
  fun_induction takeDigits input with
  | case1 => exact ⟨[], fun _ within => absurd within List.not_mem_nil, rfl, rfl⟩
  | case2 c rest digit found ih =>
    obtain ⟨text, all, values, whole⟩ := ih
    obtain ⟨isDigit, rfl⟩ := isDigit_of_digit? found
    refine ⟨c :: text, List.forall_mem_cons.mpr ⟨isDigit, all⟩, ?_, ?_⟩
    · rw [values]
      rfl
    · exact congrArg (c :: ·) whole
  | case3 => exact ⟨[], fun _ within => absurd within List.not_mem_nil, rfl, rfl⟩

variable (early : Problem)

theorem readDigits_takes : (readDigits early).Takes fun digits text =>
    IsDigits text ∧ digits = text.map digitValue := by
  intro input rest digits read
  obtain ⟨text, all, values, whole⟩ := exists_takeDigits input
  rw [readDigits] at read
  split at read
  · cases read
  · cases read
  · next noneLeft noneHere =>
    rw [Except.ok.injEq] at read
    rw [read] at values whole noneLeft noneHere
    refine ⟨text, ⟨⟨?_, all⟩, values⟩, whole⟩
    rintro rfl
    cases rest with
    | nil => exact noneLeft (congrArg (·, []) values)
    | cons c rest => exact noneHere c rest (congrArg (·, c :: rest) values)

private theorem readWhole_takes : (readWhole early).Takes fun _ text => IsWhole text := by
  intro input rest _ read
  obtain ⟨digits, text, _, ⟨isDigits, values⟩, behind, rfl⟩ :=
    (readDigits_takes early).bind_eq_ok read
  refine ⟨text, ⟨isDigits, ?_⟩, ?_⟩
  · rintro tail rfl
    cases tail with
    | nil => rfl
    | cons c tail => rw [values] at behind; cases behind
  · split at behind
    · cases behind
    · cases behind
      rfl

private theorem readPlaces_takes : (readPlaces early).Takes fun _ text => IsPlaces text := by
  intro input rest _ read
  unfold readPlaces at read
  split at read
  · obtain ⟨digits, text, _, ⟨isDigits, _⟩, behind, rfl⟩ := (readDigits_takes early).bind_eq_ok read
    cases behind
    exact ⟨_, .some isDigits, rfl⟩
  · cases read
    exact ⟨[], .none, rfl⟩

private theorem readSign_takes : readSign.Takes fun _ text => text ∈ [[], ['+'], ['-']] := by
  intro input rest _ read
  unfold readSign at read
  split at read
  · cases read; exact ⟨['-'], by decide, rfl⟩
  · cases read; exact ⟨['+'], by decide, rfl⟩
  · cases read; exact ⟨[], by decide, rfl⟩

theorem readPowerDigits_takes : (readPowerDigits early).Takes fun _ text =>
    ∃ sign digits, sign ∈ [[], ['+'], ['-']] ∧ IsDigits digits ∧ text = sign ++ digits := by
  intro input rest _ read
  obtain ⟨negative, sign, _, isSign, behindSign, rfl⟩ := readSign_takes.bind_eq_ok read
  obtain ⟨digits, text, _, ⟨isDigits, _⟩, behind, rfl⟩ :=
    (readDigits_takes early).bind_eq_ok behindSign
  cases behind
  exact ⟨_, ⟨sign, text, isSign, isDigits, rfl⟩, (List.append_assoc ..).symm⟩

private theorem readPower_takes : (readPower early).Takes fun _ text => IsPower text := by
  intro input rest _ read
  unfold readPower at read
  split at read
  · obtain ⟨_, ⟨sign, digits, isSign, isDigits, rfl⟩, rfl⟩ := readPowerDigits_takes early read
    exact ⟨_, .some (by decide) isSign isDigits, rfl⟩
  · obtain ⟨_, ⟨sign, digits, isSign, isDigits, rfl⟩, rfl⟩ := readPowerDigits_takes early read
    exact ⟨_, .some (by decide) isSign isDigits, rfl⟩
  · cases read
    exact ⟨[], .none, rfl⟩

theorem readUnsigned_takes (negative : Bool) : (readUnsigned early negative).Takes fun _ text =>
    ∃ whole places power, IsWhole whole ∧ IsPlaces places ∧ IsPower power ∧
      text = whole ++ (places ++ power) := by
  intro input rest _ read
  obtain ⟨_, whole, _, isWhole, behindWhole, rfl⟩ := (readWhole_takes early).bind_eq_ok read
  obtain ⟨_, places, _, isPlaces, behindPlaces, rfl⟩ :=
    (readPlaces_takes early).bind_eq_ok behindWhole
  obtain ⟨_, power, _, isPower, behind, rfl⟩ := (readPower_takes early).bind_eq_ok behindPlaces
  cases behind
  exact ⟨_, ⟨whole, places, power, isWhole, isPlaces, isPower, rfl⟩,
    by simp only [List.append_assoc]⟩

private theorem readNumeral_takes : (readNumeral early).Takes fun _ text => IsNumber text := by
  intro input rest _ read
  unfold readNumeral at read
  split at read
  · have isSign : ['-'] ∈ [[], ['-']] := by decide
    obtain ⟨_, ⟨whole, places, power, isWhole, isPlaces, isPower, rfl⟩, rfl⟩ :=
      readUnsigned_takes early true read
    exact ⟨_, .parts isSign isWhole isPlaces isPower, rfl⟩
  · obtain ⟨_, ⟨whole, places, power, isWhole, isPlaces, isPower, rfl⟩, rfl⟩ :=
      readUnsigned_takes early false read
    exact ⟨_, .parts List.mem_cons_self isWhole isPlaces isPower, rfl⟩

end Numbers

/-- What is passed over as a scalar is one. -/
theorem skipScalar_takes : skipScalar.Takes fun _ text => IsScalar text := by
  intro input rest _ read
  unfold skipScalar at read
  split at read
  · cases read
  · obtain ⟨_, ⟨text, written, spells, rfl⟩, rfl⟩ := skipText_takes read
    exact ⟨_, .string spells, rfl⟩
  · obtain ⟨_, rfl, rfl⟩ := expect_takes _ read
    exact ⟨_, .null, rfl⟩
  · obtain ⟨_, rfl, rfl⟩ := expect_takes _ read
    exact ⟨_, .true, rfl⟩
  · obtain ⟨_, rfl, rfl⟩ := expect_takes _ read
    exact ⟨_, .false, rfl⟩
  · split at read
    · obtain ⟨_, text, _, isNumber, behind, whole⟩ := (readNumeral_takes .malformed).bind_eq_ok read
      cases behind
      exact ⟨text, .number isNumber, whole⟩
    · cases read

section Named

variable {α : Type} {values : List α} {nameOf : α → String}

private theorem name_of_lookup {name : String} {value : α}
    (found : (values.map fun value => (nameOf value, value)).lookup name = some value) :
    nameOf value = name := by
  by_cases known : name ∈ values.map nameOf
  · obtain ⟨other, alsoFound, hasName⟩ := lookup_of_mem known
    rw [found] at alsoFound
    cases alsoFound
    exact hasName
  · rw [lookup_of_not_mem known] at found
    cases found

private theorem named_takes (variants : Variants α) (name : String) :
    (variants.named name).Takes fun value text =>
      variants.lookup name = some value ∧ text = [] := by
  intro input rest value read
  cases found : variants.lookup name with
  | some known =>
    rw [named_of_some variants found] at read
    cases read
    exact ⟨[], ⟨rfl, rfl⟩, rfl⟩
  | none =>
    rw [named_of_none variants found] at read
    cases read

theorem readName_takes : (readName (values.map fun value => (nameOf value, value))).Takes
    fun value text => ∃ written, Spells ByCode (nameOf value).toList written ∧
      text = written ++ ['"'] := by
  intro input rest value read
  obtain ⟨name, _, _, ⟨written, spells, rfl⟩, behind, rfl⟩ := readText_takes.bind_eq_ok read
  obtain ⟨_, ⟨found, rfl⟩, rfl⟩ := named_takes _ _ behind
  refine ⟨_, ⟨written, ?_, rfl⟩, rfl⟩
  rw [name_of_lookup found, String.toList_ofList]
  exact spells

private theorem readNull_takes : readNull.Takes fun _ => Indented (· = ['n', 'u', 'l', 'l']) := by
  apply Reader.Takes.spaced
  intro input rest _ read
  simp only at read
  split at read
  · cases read
  · obtain ⟨_, rfl, rfl⟩ := expect_takes _ read
    exact ⟨_, rfl, rfl⟩
  · cases read

private theorem openKey_takes : (openKey keys).Takes fun _ => Indented (· = ['"']) := by
  apply Reader.Takes.spaced
  intro input rest _ read
  simp only at read
  split at read
  · cases read
  · cases read
    exact ⟨_, rfl, rfl⟩
  · cases read

private theorem readTagged_takes :
    (readTagged keys (values.map fun value => (nameOf value, value))).Takes
    fun value text => NameWritten (nameOf value) ('\x7b' :: text) := by
  intro input rest value read
  obtain ⟨_, _, _, ⟨before, _, isBefore, rfl, rfl⟩, behindQuote, rfl⟩ :=
    openKey_takes.bind_eq_ok read
  obtain ⟨named, _, _, ⟨written, spells, rfl⟩, behindName, rfl⟩ :=
    readName_takes.bind_eq_ok behindQuote
  obtain ⟨_, _, _, ⟨colon, _, isColon, rfl, rfl⟩, behindColon, rfl⟩ :=
    (mark_takes _).bind_eq_ok behindName
  obtain ⟨_, _, _, ⟨null, _, isNull, rfl, rfl⟩, behindNull, rfl⟩ :=
    readNull_takes.bind_eq_ok behindColon
  obtain ⟨_, _, _, ⟨after, _, isAfter, rfl, rfl⟩, behind, rfl⟩ :=
    (mark_takes _).bind_eq_ok behindNull
  cases behind
  refine ⟨_, .tagged spells isBefore isColon isNull isAfter, ?_⟩
  simp only [List.append_assoc, List.cons_append, List.nil_append]

/-- What is read as a named value is a spelling of its name. -/
theorem readVariant_takes : (readVariant keys (values.map fun value => (nameOf value, value))).Takes
    fun value => Indented (NameWritten (nameOf value)) := by
  apply Reader.Takes.spaced
  intro input rest value read
  simp only at read
  split at read
  · cases read
  · obtain ⟨_, ⟨written, spells, rfl⟩, rfl⟩ := readName_takes read
    exact ⟨_, .string spells, rfl⟩
  · obtain ⟨_, tagged, rfl⟩ := readTagged_takes read
    exact ⟨_, tagged, rfl⟩
  · cases read

end Named

end Roshambo.Json
