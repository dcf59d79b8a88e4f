import Roshambo.Proofs.Json.Members
import Roshambo.Proofs.Json.Taken

/-! # Answers that last

A reader settles what it can on the text that it has: more text behind changes neither what it
finds nor what it finds wrong, unless it came to the end and the text was too short for it
(`Reader.Settles`). This holds of a sequence of readers if it holds of each of them, so it is shown
here of the readers of space, strings, numbers and scalars. A number has no end of its own: there
the text behind must not begin with a character with which a number could go on (`Severs`).
-/

namespace Roshambo.Json

section Lasting

variable {α β γ : Type} {extend : β → β} {further : γ → γ}

/-- An answer that lasts: it is the same on a longer text, up to what is left of the text, unless
the shorter text has ended too early. -/
inductive Lasts (extend : β → β) : Except Problem β → Except Problem β → Prop
  | truncated (long : Except Problem β) : Lasts extend (.error .truncated) long
  | value (found : β) : Lasts extend (.ok found) (.ok (extend found))
  | problem (problem : Problem) : Lasts extend (.error problem) (.error problem)

theorem Lasts.bind {short long : Except Problem β} {next : β → Except Problem γ}
    (head : Lasts extend short long)
    (tail : ∀ found, short = .ok found → Lasts further (next found) (next (extend found))) :
    Lasts further (short.bind next) (long.bind next) := by
  cases head with
  | truncated => exact .truncated _
  | value found => exact tail found rfl
  | problem problem => exact .problem problem

theorem Lasts.map {short long : Except Problem β} {change : β → γ}
    (head : Lasts extend short long)
    (alike : ∀ found, change (extend found) = further (change found)) :
    Lasts further (short.map change) (long.map change) := by
  cases head with
  | truncated => exact .truncated _
  | value found =>
    change Lasts further (.ok (change found)) (.ok (change (extend found)))
    rw [alike]
    exact .value _
  | problem problem => exact .problem problem

def followed (more : List Char) (found : α × List Char) : α × List Char :=
  (found.1, found.2 ++ more)

/-- Whether the answers of a reader last when there is more text. -/
def Reader.Settles (more : List Char) (reader : Reader α) : Prop :=
  ∀ input, Lasts (followed more) (reader input) (reader (input ++ more))

end Lasting

section Readers

variable {α β : Type} {more : List Char}

theorem settles_pure (value : α) : (pure value : Reader α).Settles more := fun _ => .value _

theorem settles_fail (problem : Problem) : (Reader.fail problem : Reader α).Settles more :=
  fun _ => .problem problem

theorem Reader.Settles.bind {first : Reader α} {next : α → Reader β} (head : first.Settles more)
    (tail : ∀ value, (next value).Settles more) : (first >>= next).Settles more := by
  intro input
  rw [Reader.bind_eq, Reader.bind_eq]
  apply (head input).bind
  rintro ⟨value, rest⟩ _
  exact tail value rest

theorem skipSpace_append {input : List Char} (goesOn : skipSpace input ≠ []) :
    skipSpace (input ++ more) = skipSpace input ++ more := by
  rw [skipSpace, List.dropWhile_append, if_neg]
  · rfl
  · rwa [List.isEmpty_iff]

/-- Behind space a reader settles what it settles at any first character, if it does not take an
empty text. -/
theorem settles_spaced {reader : Reader α} (ends : reader [] = .error .truncated)
    (front : ∀ c rest, Lasts (followed more) (reader (c :: rest)) (reader (c :: (rest ++ more)))) :
    reader.spaced.Settles more := by
  intro input
  rw [Reader.spaced, Reader.spaced]
  by_cases goesOn : skipSpace input = []
  · rw [goesOn, ends]
    exact .truncated _
  · rw [skipSpace_append goesOn]
    obtain ⟨c, rest, isFront⟩ := List.exists_cons_of_ne_nil goesOn
    rw [isFront]
    exact front c rest

theorem settles_expect (word : List Char) : (expect word).Settles more := by
  intro input
  fun_induction expect word input with
  | case1 => exact .value _
  | case2 => exact .truncated _
  | case3 word d rest ih =>
    rw [List.cons_append, expect, if_pos rfl]
    exact ih
  | case4 c word d rest differs =>
    rw [List.cons_append, expect, if_neg differs]
    exact .problem _

theorem settles_mark (c : Char) : (mark c).Settles more := by
  apply settles_spaced rfl
  intro d rest
  simp only
  split
  · exact .value _
  · exact .problem _

end Readers

section Strings

variable {more : List Char}

def byteSize (text : List Char) : Nat := text.foldr (fun c size => c.utf8Size + size) 0

private theorem byteSize_le_append (text : List Char) :
    byteSize text ≤ byteSize (text ++ more) := by
  induction text with
  | nil => exact Nat.zero_le _
  | cons c text ih => exact Nat.add_le_add_left ih c.utf8Size

private theorem exists_wide {text : List Char} (exceeds : text.length < byteSize text) :
    ∃ c ∈ text, c.utf8Size ≠ 1 := by
  induction text with
  | nil => cases exceeds
  | cons c text ih =>
    by_cases narrow : c.utf8Size = 1
    · change text.length + 1 < c.utf8Size + byteSize text at exceeds
      obtain ⟨wide, within, isWide⟩ := ih (by omega)
      exact ⟨wide, List.mem_cons_of_mem _ within, isWide⟩
    · exact ⟨c, List.mem_cons_self, narrow⟩

theorem utf8Size_of_hexValue? {c : Char} {value : Nat} (read : Text.hexValue? c = some value) :
    c.utf8Size = 1 := by
  obtain ⟨small, isDigit⟩ := isHexDigit_of_read read
  have every : ∀ n < 16,
      (Text.hexDigit n).utf8Size = 1 ∧ (Text.hexDigit n).toUpper.utf8Size = 1 := by
    decide
  obtain rfl | rfl := isDigit
  · exact (every value small).1
  · exact (every value small).2

theorem readUnit_of_short {input : List Char} (short : input.length < 4) :
    readUnit input = if 4 ≤ byteSize input then .error .malformed else .error .truncated := by
  unfold readUnit
  split
  · simp only [List.length_cons] at short
    omega
  · rfl

/-- Digits are single bytes, so with another character among the first four there is no unit. -/
private theorem readUnit_of_wide {input : List Char} {wide : Char} (long : 4 ≤ byteSize input)
    (within : wide ∈ input.take 4) (isWide : wide.utf8Size ≠ 1) :
    readUnit input = .error .malformed := by
  unfold readUnit
  split
  · next a b c d rest =>
    split
    · next found =>
      simp only [unitOf?, bind, Option.bind_eq_some_iff] at found
      obtain ⟨_, first, _, second, _, third, _, fourth, _⟩ := found
      simp only [List.take_succ_cons, List.take_zero, List.mem_cons, List.not_mem_nil,
        or_false] at within
      obtain rfl | rfl | rfl | rfl := within
      · exact absurd (utf8Size_of_hexValue? first) isWide
      · exact absurd (utf8Size_of_hexValue? second) isWide
      · exact absurd (utf8Size_of_hexValue? third) isWide
      · exact absurd (utf8Size_of_hexValue? fourth) isWide
    · rfl
  · exact if_pos long

theorem settles_readUnit : readUnit.Settles more := by
  intro input
  by_cases short : input.length < 4
  · by_cases long : 4 ≤ byteSize input
    · -- More bytes than characters: one of the characters is no digit, whatever follows.
      obtain ⟨wide, within, isWide⟩ := exists_wide (Nat.lt_of_lt_of_le short long)
      have early : input.take 4 = input := List.take_of_length_le (by omega)
      have still : wide ∈ (input ++ more).take 4 := by
        rw [List.take_append, early]
        exact List.mem_append_left _ within
      rw [readUnit_of_short short, if_pos long,
        readUnit_of_wide (Nat.le_trans long (byteSize_le_append input)) still isWide]
      exact .problem _
    · rw [readUnit_of_short short, if_neg long]
      exact .truncated _
  · match input, short with
    | a :: b :: c :: d :: rest, _ =>
      simp only [List.cons_append, readUnit]
      cases unitOf? a b c d with
      | none => exact .problem _
      | some unit => exact .value _
    | [], short | [_], short | [_, _], short | [_, _, _], short => exact absurd (by simp) short

private theorem settles_readNumbered : readNumbered.Settles more := by
  apply settles_readUnit.bind
  intro unit
  split
  · exact settles_fail _
  split
  · apply (settles_expect _).bind
    intro _
    apply settles_readUnit.bind
    intro trail
    split
    · exact settles_pure _
    · exact settles_fail _
  · exact settles_pure _

private theorem settles_skipNumbered : skipNumbered.Settles more :=
  settles_readUnit.bind fun _ => settles_pure _

variable {numbered : Reader Char} {consumes : numbered.Consumes}

private theorem settles_readEscape (settles : numbered.Settles more) :
    (readEscape numbered).Settles more := by
  intro input
  unfold readEscape
  split
  · exact .truncated _
  · exact settles _
  · next c rest noNumber =>
    simp only [List.cons_append]
    split
    · exact .value _
    · exact .problem _

/-- A string is settled character by character, up to its closing quote. -/
theorem settles_scanText (settles : numbered.Settles more) :
    (scanText numbered consumes).Settles more := by
  intro input
  induction size : input.length using Nat.strongRecOn generalizing input with
  | ind n ih =>
    cases input with
    | nil =>
      rw [scanText]
      exact .truncated _
    | cons c rest =>
      rw [List.cons_append]
      by_cases isQuote : c = '"'
      · rw [isQuote, scanText_quote, scanText_quote]
        exact .value _
      by_cases isEscape : c = '\\'
      · rw [isEscape, scanText_escape, scanText_escape]
        apply (settles_readEscape settles rest).bind
        rintro ⟨d, after⟩ escaped
        have shorter := consumes_readEscape consumes escaped
        simp only [List.length_cons] at size
        exact (ih after.length (by omega) after rfl).map fun _ => rfl
      by_cases control : c < ' '
      · rw [scanText_control control, scanText_control control]
        exact .problem _
      · have printable := Char.not_lt.mp control
        rw [scanText_plain _ printable isQuote isEscape,
          scanText_plain _ printable isQuote isEscape]
        simp only [List.length_cons] at size
        exact (ih rest.length (by omega) rest rfl).map fun _ => rfl

theorem settles_readText : readText.Settles more := settles_scanText settles_readNumbered

theorem settles_skipText : skipText.Settles more :=
  (settles_scanText settles_skipNumbered).bind fun _ => settles_pure _

end Strings

/-- The characters with which a number could go on. -/
def numeric : List Char :=
  ['0', '1', '2', '3', '4', '5', '6', '7', '8', '9', '.', 'e', 'E', '+', '-']

/-- Whether a text ends every number that stands before it. -/
def Severs (more : List Char) : Prop := ∀ c ∈ more.head?, c ∉ numeric

section Numbers

variable {more : List Char} (severs : Severs more)

private theorem mem_numeric_of_isDigit {c : Char} (isDigit : c.isDigit) : c ∈ numeric := by
  have bounds := Char.isDigit_iff_toNat.mp isDigit
  have every : ∀ n < 58, 48 ≤ n → Char.ofNat n ∈ numeric := by decide
  rw [← Char.ofNat_toNat c]
  exact every c.toNat (Nat.lt_succ_of_le bounds.2) bounds.1

include severs

private theorem takeDigits_followed (input : List Char) :
    takeDigits (input ++ more) = followed more (takeDigits input) := by
  induction input with
  | nil => exact takeDigits_noDigit fun c isHead => mt mem_numeric_of_isDigit (severs c isHead)
  | cons c rest ih =>
    simp only [List.cons_append, takeDigits, ih]
    cases digit? c <;> rfl

/-- An optional part that begins with a mark of numbers is there or not, whatever follows. -/
theorem settles_marked {α : Type} {reader other : Reader α} {marks : List Char}
    (numerals : marks ⊆ numeric) (otherSettles : other.Settles more)
    (absent : ∀ input, (∀ c ∈ input.head?, c ∉ marks) → reader input = other input)
    (present : ∀ c ∈ marks, ∀ rest,
      Lasts (followed more) (reader (c :: rest)) (reader (c :: (rest ++ more)))) :
    reader.Settles more := by
  intro input
  cases input with
  | nil =>
    have noMark : ∀ c ∈ more.head?, c ∉ marks :=
      fun c isHead => mt (@numerals c) (severs c isHead)
    rw [absent [] (by simp), List.nil_append, absent more noMark]
    exact otherSettles []
  | cons c rest =>
    by_cases marked : c ∈ marks
    · exact present c marked rest
    · have noMark (tail : List Char) : ∀ d ∈ (c :: tail).head?, d ∉ marks := by
        intro d isHead
        cases isHead
        exact marked
      rw [absent _ (noMark rest), List.cons_append, absent _ (noMark (rest ++ more))]
      exact otherSettles (c :: rest)

variable {early : Problem} (isEnd : early = .truncated ∨ early = .malformed)

include isEnd

theorem settles_readDigits : (readDigits early).Settles more := by
  intro input
  rw [readDigits, readDigits, takeDigits_followed severs]
  rcases takeDigits input with ⟨digits, rest⟩
  cases digits with
  | cons => exact .value _
  | nil =>
    cases rest with
    | cons => exact .problem _
    | nil =>
      -- No digit was there at the end of the text, and none comes behind it.
      obtain rfl | rfl := isEnd
      · exact .truncated _
      · cases more <;> exact .problem _

private theorem settles_readWhole : (readWhole early).Settles more := by
  apply (settles_readDigits severs isEnd).bind
  intro digits
  split
  · exact settles_fail _
  · exact settles_pure _

private theorem settles_readPlaces : (readPlaces early).Settles more := by
  apply settles_marked severs (show ['.'] ⊆ numeric by decide) (settles_pure none)
  · intro input noPoint
    unfold readPlaces
    split
    · exact absurd List.mem_cons_self (noPoint '.' rfl)
    · rfl
  · intro c isPoint rest
    rw [List.mem_singleton.mp isPoint]
    exact ((settles_readDigits severs isEnd).bind fun _ => settles_pure _) rest

omit isEnd in
private theorem settles_readSign : readSign.Settles more := by
  apply settles_marked severs (show ['-', '+'] ⊆ numeric by decide) (settles_pure false)
  · intro input noSign
    unfold readSign
    split
    · exact absurd (by decide) (noSign '-' rfl)
    · exact absurd (by decide) (noSign '+' rfl)
    · rfl
  · intro c isSign rest
    simp only [List.mem_cons, List.not_mem_nil, or_false] at isSign
    obtain rfl | rfl := isSign
    · exact .value _
    · exact .value _

private theorem settles_readPower : (readPower early).Settles more := by
  have digits : (readPowerDigits early).Settles more :=
    (settles_readSign severs).bind fun _ =>
      (settles_readDigits severs isEnd).bind fun _ => settles_pure _
  apply settles_marked severs (show ['e', 'E'] ⊆ numeric by decide) (settles_pure none)
  · intro input noLetter
    unfold readPower
    split
    · exact absurd (by decide) (noLetter 'e' rfl)
    · exact absurd (by decide) (noLetter 'E' rfl)
    · rfl
  · intro c isLetter rest
    simp only [List.mem_cons, List.not_mem_nil, or_false] at isLetter
    obtain rfl | rfl := isLetter
    · exact digits rest
    · exact digits rest

theorem settles_readUnsigned (negative : Bool) : (readUnsigned early negative).Settles more :=
  (settles_readWhole severs isEnd).bind fun _ =>
    (settles_readPlaces severs isEnd).bind fun _ =>
      (settles_readPower severs isEnd).bind fun _ => settles_pure _

theorem settles_readNumeral : (readNumeral early).Settles more := by
  apply settles_marked severs (show ['-'] ⊆ numeric by decide)
    (settles_readUnsigned severs isEnd false)
  · intro input noSign
    unfold readNumeral
    split
    · exact absurd List.mem_cons_self (noSign '-' rfl)
    · rfl
  · intro c isSign rest
    rw [List.mem_singleton.mp isSign]
    exact settles_readUnsigned severs isEnd true rest

end Numbers

section Values

variable {α β : Type} {more : List Char} (severs : Severs more)

include severs

theorem settles_skipScalar : skipScalar.Settles more := by
  intro input
  unfold skipScalar
  split
  · exact .truncated _
  · exact settles_skipText _
  · exact settles_expect _ _
  · exact settles_expect _ _
  · exact settles_expect _ _
  · simp only [List.cons_append]
    split
    · exact ((settles_readNumeral severs (.inr rfl)).bind fun _ => settles_pure _) (_ :: _)
    · exact .problem _

private theorem settles_readFoundNumber : readFoundNumber.Settles more := by
  apply (settles_readNumeral severs (.inl rfl)).bind
  intro numeral
  split
  · exact settles_pure _
  · exact settles_pure _
  · exact settles_fail _

private theorem settles_readFound : readFound.Settles more := by
  intro input
  unfold readFound
  split
  · exact .truncated _
  · exact .value _
  · exact .value _
  · exact (settles_readText.bind fun _ => settles_pure _) _
  · exact ((settles_expect _).bind fun _ => settles_pure _) _
  · exact ((settles_expect _).bind fun _ => settles_pure _) _
  · exact ((settles_expect _).bind fun _ => settles_pure _) _
  · simp only [List.cons_append]
    split
    · exact settles_readFoundNumber severs (_ :: _)
    · exact .problem _

/-- What stands where something else was expected is described as far as it is known. -/
theorem unexpected_lasts {extend : β → β} (expected : String) (input : List Char) :
    Lasts extend (.error (unexpected expected input))
      (.error (unexpected expected (input ++ more))) := by
  have found := settles_readFound severs input
  unfold unexpected
  generalize readFound input = short at found ⊢
  generalize readFound (input ++ more) = long at found ⊢
  cases found with
  | truncated => exact .truncated _
  | value => exact .problem _
  | problem => exact .problem _

end Values

end Roshambo.Json
