import Roshambo.Json.Skip
import Roshambo.Proofs.Json.Spelling

/-! # Space, numbers and scalars

The parts of a JSON text without brackets: the space between tokens, numbers by their grammar, and
the scalars made of them. Each is described apart from the reader, as the set of its texts; the
main statement is `skipScalar_isScalar`, which says that the reader passes over every scalar up to
the delimiter behind it.
-/

namespace Roshambo.Json

def spaces : List Char := [' ', '\t', '\n', '\r']

def IsGap (text : List Char) : Prop := ∀ c ∈ text, c ∈ spaces

instance (text : List Char) : Decidable (IsGap text) := List.decidableBAll _ text

theorem isSpace_iff (c : Char) : isSpace c ↔ c ∈ spaces := by
  simp only [isSpace, spaces, Bool.or_eq_true, beq_iff_eq, List.mem_cons, List.not_mem_nil,
    or_false, or_assoc]

theorem skipSpace_gap {gap : List Char} (isGap : IsGap gap) (input : List Char) :
    skipSpace (gap ++ input) = skipSpace input := by
  refine List.dropWhile_append_of_pos fun c within => ?_
  exact (isSpace_iff c).mpr (isGap c within)

theorem skipSpace_cons {c : Char} (visible : c ∉ spaces) (input : List Char) :
    skipSpace (c :: input) = c :: input := by
  rw [skipSpace, List.dropWhile_cons_of_neg]
  rwa [isSpace_iff]

theorem spaced_gap {α : Type} (reader : Reader α) {gap : List Char} (isGap : IsGap gap)
    (input : List Char) : reader.spaced (gap ++ input) = reader.spaced input := by
  rw [Reader.spaced, Reader.spaced, skipSpace_gap isGap]

theorem spaced_cons {α : Type} (reader : Reader α) {c : Char} (visible : c ∉ spaces)
    (input : List Char) : reader.spaced (c :: input) = reader (c :: input) := by
  rw [Reader.spaced, skipSpace_cons visible]

/-- Behind space, reading begins at the first character that is none. -/
theorem spaced_gap_cons {α : Type} (reader : Reader α) {gap : List Char} {c : Char}
    (isGap : IsGap gap) (visible : c ∉ spaces) (input : List Char) :
    reader.spaced (gap ++ c :: input) = reader (c :: input) :=
  (spaced_gap reader isGap _).trans (spaced_cons reader visible input)

theorem mark_cons {c : Char} (visible : c ∉ spaces) (input : List Char) :
    mark c (c :: input) = .ok ((), input) :=
  (spaced_cons _ visible input).trans (if_pos rfl)

theorem mark_gap {c : Char} {gap : List Char} (isGap : IsGap gap) (visible : c ∉ spaces)
    (input : List Char) : mark c (gap ++ c :: input) = .ok ((), input) :=
  (spaced_gap_cons _ isGap visible input).trans (if_pos rfl)

/-- The characters that may stand behind a value. -/
def delimiters : List Char := spaces ++ [',', ']', '\x7d']

/-- Whether a text goes on with a delimiter, if it goes on at all. -/
def Delimited (rest : List Char) : Prop := ∀ c ∈ rest.head?, c ∈ delimiters

theorem Delimited.cons {c : Char} (delimits : c ∈ delimiters) (rest : List Char) :
    Delimited (c :: rest) := by
  intro d isHead
  cases isHead
  exact delimits

theorem Delimited.gap {gap rest : List Char} (isGap : IsGap gap) (delimited : Delimited rest) :
    Delimited (gap ++ rest) := by
  cases gap with
  | nil => exact delimited
  | cons c gap => exact .cons (List.mem_append_left _ (isGap c (List.mem_cons_self ..))) _

def IsDigits (text : List Char) : Prop := text ≠ [] ∧ ∀ c ∈ text, c.isDigit

/-- Digits of which the first is zero only if it is the only one. -/
def IsWhole (text : List Char) : Prop := IsDigits text ∧ ∀ tail, text = '0' :: tail → tail = []

inductive IsPlaces : List Char → Prop
  | none : IsPlaces []
  | some {digits : List Char} (isDigits : IsDigits digits) : IsPlaces ('.' :: digits)

inductive IsPower : List Char → Prop
  | none : IsPower []
  | some {letter : Char} {sign digits : List Char} (isLetter : letter ∈ ['e', 'E'])
      (isSign : sign ∈ [[], ['+'], ['-']]) (isDigits : IsDigits digits) :
      IsPower (letter :: (sign ++ digits))

/-- The number grammar: a sign, digits without leading zeros, places and an exponent. -/
inductive IsNumber : List Char → Prop
  | parts {sign whole places power : List Char} (isSign : sign ∈ [[], ['-']])
      (isWhole : IsWhole whole) (isPlaces : IsPlaces places) (isPower : IsPower power) :
      IsNumber (sign ++ (whole ++ (places ++ power)))

def NoDigit (rest : List Char) : Prop := ∀ c ∈ rest.head?, ¬ c.isDigit

def digitValue (c : Char) : Nat := c.toNat - '0'.toNat

private theorem digit?_isDigit {c : Char} (isDigit : c.isDigit) : digit? c = some (digitValue c) :=
  if_pos isDigit

theorem takeDigits_noDigit {rest : List Char} (ends : NoDigit rest) :
    takeDigits rest = ([], rest) := by
  cases rest with
  | nil => rfl
  | cons c rest =>
    have noDigit : digit? c = none := if_neg (ends c rfl)
    simp only [takeDigits, noDigit]

private theorem takeDigits_append {digits rest : List Char} (all : ∀ c ∈ digits, c.isDigit)
    (ends : NoDigit rest) : takeDigits (digits ++ rest) = (digits.map digitValue, rest) := by
  induction digits with
  | nil => exact takeDigits_noDigit ends
  | cons c digits ih =>
    obtain ⟨isDigit, others⟩ := List.forall_mem_cons.mp all
    simp only [List.cons_append, takeDigits, digit?_isDigit isDigit, ih others, List.map_cons]

section Numeral

variable (early : Problem)

theorem readDigits_isDigits {digits rest : List Char} (isDigits : IsDigits digits)
    (ends : NoDigit rest) :
    readDigits early (digits ++ rest) = .ok (digits.map digitValue, rest) := by
  obtain ⟨some, all⟩ := isDigits
  cases digits with
  | nil => exact absurd rfl some
  | cons c digits => rw [readDigits, takeDigits_append all ends]; rfl

private theorem digitValue_eq_zero {c : Char} (isDigit : c.isDigit) (zero : digitValue c = 0) :
    c = '0' := by
  have least : '0'.toNat ≤ c.toNat := (Char.isDigit_iff_toNat.mp isDigit).1
  apply Char.toNat_inj.mp
  simp only [digitValue] at zero
  omega

private theorem readWhole_isWhole {whole rest : List Char} (isWhole : IsWhole whole)
    (ends : NoDigit rest) : readWhole early (whole ++ rest) = .ok (whole.map digitValue, rest) := by
  obtain ⟨isDigits, noLeadingZero⟩ := isWhole
  rw [readWhole, Reader.bind_of_ok (readDigits_isDigits early isDigits ends)]
  generalize same : whole.map digitValue = values
  match values, same with
  | [], _ | [0], _ | (_ + 1) :: _, _ => rfl
  | 0 :: _ :: _, same =>
    -- A zero in front of another digit is what the grammar leaves out.
    obtain ⟨c, tail, rfl, zero, more⟩ := List.map_eq_cons_iff.mp same
    cases digitValue_eq_zero (isDigits.2 c (List.mem_cons_self ..)) zero
    cases noLeadingZero tail rfl
    cases more

theorem IsDigits.front {digits : List Char} (isDigits : IsDigits digits) :
    ∃ c tail, digits = c :: tail ∧ c.isDigit := by
  obtain ⟨some, all⟩ := isDigits
  obtain ⟨c, tail, rfl⟩ := List.exists_cons_of_ne_nil some
  exact ⟨c, tail, rfl, all c (List.mem_cons_self ..)⟩

private theorem readSign_isSign {sign digits : List Char} (isSign : sign ∈ [[], ['+'], ['-']])
    (isDigits : IsDigits digits) (rest : List Char) :
    ∃ negative, readSign (sign ++ (digits ++ rest)) = .ok (negative, digits ++ rest) := by
  simp only [List.mem_cons, List.not_mem_nil, or_false] at isSign
  rcases isSign with rfl | rfl | rfl
  · obtain ⟨c, tail, rfl, isDigit⟩ := isDigits.front
    refine ⟨false, ?_⟩
    unfold readSign
    split
    · next same => cases same; exact absurd isDigit (by decide)
    · next same => cases same; exact absurd isDigit (by decide)
    · rfl
  · exact ⟨false, rfl⟩
  · exact ⟨true, rfl⟩

theorem Delimited.noDigit {rest : List Char} (delimited : Delimited rest) : NoDigit rest := by
  have every : ∀ c ∈ delimiters, ¬ c.isDigit := by simp [delimiters, spaces]
  intro c isHead
  exact every c (delimited c isHead)

theorem IsPower.noDigit {power rest : List Char} (isPower : IsPower power)
    (delimited : Delimited rest) : NoDigit (power ++ rest) := by
  cases isPower with
  | none => exact delimited.noDigit
  | some isLetter =>
    have every : ∀ c ∈ ['e', 'E'], ¬ c.isDigit := by simp
    intro c isHead
    cases isHead
    exact every _ isLetter

theorem IsPlaces.noDigit {places rest : List Char} (isPlaces : IsPlaces places)
    (ends : NoDigit rest) : NoDigit (places ++ rest) := by
  cases isPlaces with
  | none => exact ends
  | some =>
    intro c isHead
    cases isHead
    decide

private theorem readPower_isPower {power rest : List Char} (isPower : IsPower power)
    (delimited : Delimited rest) :
    ∃ exponent, readPower early (power ++ rest) = .ok (exponent, rest) := by
  cases isPower with
  | none =>
    have every : ∀ c ∈ delimiters, c ≠ 'e' ∧ c ≠ 'E' := by simp [delimiters, spaces]
    refine ⟨none, ?_⟩
    unfold readPower
    split
    · next same => exact absurd rfl (every _ (delimited 'e' (congrArg List.head? same))).1
    · next same => exact absurd rfl (every _ (delimited 'E' (congrArg List.head? same))).2
    · rfl
  | @some letter sign digits isLetter isSign isDigits =>
    obtain ⟨negative, signRead⟩ := readSign_isSign isSign isDigits rest
    have read : readPowerDigits early (sign ++ (digits ++ rest)) =
        .ok (some (negative, digits.map digitValue), rest) := by
      rw [readPowerDigits, Reader.bind_of_ok signRead,
        Reader.bind_of_ok (readDigits_isDigits early isDigits delimited.noDigit)]
      rfl
    rw [← List.append_assoc] at read
    simp only [List.mem_cons, List.not_mem_nil, or_false] at isLetter
    rcases isLetter with rfl | rfl
    · exact ⟨_, read⟩
    · exact ⟨_, read⟩

private theorem readPlaces_isPlaces {places power rest : List Char} (isPlaces : IsPlaces places)
    (isPower : IsPower power) (delimited : Delimited rest) :
    ∃ found, readPlaces early (places ++ (power ++ rest)) = .ok (found, power ++ rest) := by
  have ends := isPower.noDigit delimited
  cases isPlaces with
  | none =>
    have noPoint : ∀ tail, power ++ rest ≠ '.' :: tail := by
      have every : ∀ c ∈ delimiters ++ ['e', 'E'], c ≠ '.' := by simp [delimiters, spaces]
      intro tail same
      cases isPower with
      | none =>
        have delimits := delimited '.' (congrArg List.head? same)
        exact every _ (List.mem_append_left _ delimits) rfl
      | some isLetter =>
        cases same
        exact every _ (List.mem_append_right _ isLetter) rfl
    refine ⟨none, ?_⟩
    unfold readPlaces
    split
    · next tail same => exact absurd same (noPoint tail)
    · rfl
  | @some digits isDigits =>
    refine ⟨some (digits.map digitValue), ?_⟩
    exact Reader.bind_of_ok (readDigits_isDigits early isDigits ends) _

theorem readUnsigned_parts {whole places power rest : List Char} (negative : Bool)
    (isWhole : IsWhole whole) (isPlaces : IsPlaces places) (isPower : IsPower power)
    (delimited : Delimited rest) :
    ∃ numeral, readUnsigned early negative (whole ++ (places ++ (power ++ rest))) =
      .ok (numeral, rest) := by
  have ends := isPlaces.noDigit (isPower.noDigit delimited)
  obtain ⟨places, placesRead⟩ := readPlaces_isPlaces early isPlaces isPower delimited
  obtain ⟨power, powerRead⟩ := readPower_isPower early isPower delimited
  refine ⟨⟨negative, whole.map digitValue, places, power⟩, ?_⟩
  rw [readUnsigned, Reader.bind_of_ok (readWhole_isWhole early isWhole ends),
    Reader.bind_of_ok placesRead, Reader.bind_of_ok powerRead]
  rfl

theorem readNumeral_isNumber {text rest : List Char} (isNumber : IsNumber text)
    (delimited : Delimited rest) :
    ∃ numeral, readNumeral early (text ++ rest) = .ok (numeral, rest) := by
  obtain ⟨isSign, isWhole, isPlaces, isPower⟩ := isNumber
  simp only [List.append_assoc]
  simp only [List.mem_cons, List.not_mem_nil, or_false] at isSign
  rcases isSign with rfl | rfl
  · obtain ⟨c, tail, rfl, isDigit⟩ := isWhole.1.front
    obtain ⟨numeral, read⟩ :=
      readUnsigned_parts early false isWhole isPlaces isPower delimited
    refine ⟨numeral, ?_⟩
    unfold readNumeral
    split
    · next same => cases same; exact absurd isDigit (by decide)
    · exact read
  · exact readUnsigned_parts early true isWhole isPlaces isPower delimited

end Numeral

inductive IsScalar : List Char → Prop
  | null : IsScalar ['n', 'u', 'l', 'l']
  | true : IsScalar ['t', 'r', 'u', 'e']
  | false : IsScalar ['f', 'a', 'l', 's', 'e']
  | number {text : List Char} (isNumber : IsNumber text) : IsScalar text
  | string {text written : List Char} (spells : Spells ByAnyUnit text written) :
      IsScalar ('"' :: (written ++ ['"']))

theorem IsNumber.front {text : List Char} (isNumber : IsNumber text) :
    ∃ c tail, text = c :: tail ∧ beginsNumber c := by
  obtain ⟨isSign, isWhole, isPlaces, isPower⟩ := isNumber
  simp only [List.mem_cons, List.not_mem_nil, or_false] at isSign
  rcases isSign with rfl | rfl
  · obtain ⟨c, tail, rfl, isDigit⟩ := isWhole.1.front
    exact ⟨c, _, rfl, by rw [beginsNumber, isDigit, Bool.or_true]⟩
  · exact ⟨'-', _, rfl, rfl⟩

private theorem skipNumber_isNumber {text rest : List Char} (isNumber : IsNumber text)
    (delimited : Delimited rest) : skipNumber (text ++ rest) = .ok ((), rest) := by
  obtain ⟨numeral, read⟩ := readNumeral_isNumber .malformed isNumber delimited
  exact Reader.bind_of_ok read _

/-- A scalar is passed over up to the delimiter behind it. -/
theorem skipScalar_isScalar {text rest : List Char} (isScalar : IsScalar text)
    (delimited : Delimited rest) : skipScalar (text ++ rest) = .ok ((), rest) := by
  cases isScalar with
  | null | true | false => rfl
  | number isNumber =>
    have read := skipNumber_isNumber isNumber delimited
    obtain ⟨c, tail, rfl, begins⟩ := isNumber.front
    unfold skipScalar
    split
    · next same => cases same
    · next same => cases same; exact absurd begins (by decide)
    · next same => cases same; exact absurd begins (by decide)
    · next same => cases same; exact absurd begins (by decide)
    · next same => cases same; exact absurd begins (by decide)
    · next same => cases same; rw [if_pos begins]; exact read
  | @string _ written spells =>
    rw [List.cons_append, List.append_assoc]
    exact skipText_spells spells rest

end Roshambo.Json
