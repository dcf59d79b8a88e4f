import Roshambo.Json.Text

/-! # The spellings of a string

A character may be written inside a string as itself, by a short escape or by number, and every
choice is free at every place. `Spells` collects the spellings of a text; which escapes by number
count, and for which character, is a parameter, since a string that is read is stricter there than
one that is passed over. The main statements are `readText_spells` and `skipText_spells`: whichever
spelling stands in front of a closing quote, all of it is taken and nothing else.
-/

namespace Roshambo.Json

/-- A digit of either case that stands for a number below sixteen. -/
def IsHexDigit (value : Nat) (c : Char) : Prop :=
  value < 16 ∧ (c = Text.hexDigit value ∨ c = (Text.hexDigit value).toUpper)

theorem IsHexDigit.read {value : Nat} {c : Char} (digit : IsHexDigit value c) :
    Text.hexValue? c = some value := by
  obtain ⟨small, rfl | rfl⟩ := digit
  · exact Text.hexValue?_hexDigit small
  · have every : ∀ n < 16, Text.hexValue? (Text.hexDigit n).toUpper = some n := by decide
    exact every value small

/-- The spellings of a unit: four hexadecimal digits, the highest first. -/
inductive SpellsUnit (unit : Nat) : List Char → Prop
  | digits {a b c d : Char} (first : IsHexDigit (unit / 4096) a)
      (second : IsHexDigit (unit / 256 % 16) b) (third : IsHexDigit (unit / 16 % 16) c)
      (fourth : IsHexDigit (unit % 16) d) : SpellsUnit unit [a, b, c, d]

theorem readUnit_spells {unit : Nat} {digits : List Char} (spells : SpellsUnit unit digits)
    (rest : List Char) : readUnit (digits ++ rest) = .ok (unit, rest) := by
  cases spells with
  | @digits a b c d first second third fourth =>
    have number : unitOf? a b c d =
        some (((unit / 4096 * 16 + unit / 256 % 16) * 16 + unit / 16 % 16) * 16 + unit % 16) := by
      simp only [unitOf?, first.read, second.read, third.read, fourth.read, bind, Option.bind, pure]
    have whole :
        ((unit / 4096 * 16 + unit / 256 % 16) * 16 + unit / 16 % 16) * 16 + unit % 16 = unit := by
      omega
    rw [whole] at number
    simp only [List.cons_append, List.nil_append, readUnit, number]

/-- The escapes by number that count: a character and the digits behind the mark that stand for
it. -/
abbrev Numbering := Char → List Char → Prop

/-- A character by its code: one unit, or two halves if the code does not fit one. -/
inductive ByCode : Numbering
  | single {c : Char} {digits : List Char} (fits : c.toNat < 0x10000)
      (unit : SpellsUnit c.toNat digits) : ByCode c digits
  | pair {c : Char} {lead trail : List Char} (beyond : 0x10000 ≤ c.toNat)
      (high : SpellsUnit (0xD800 + (c.toNat - 0x10000) / 0x400) lead)
      (low : SpellsUnit (0xDC00 + (c.toNat - 0x10000) % 0x400) trail) :
      ByCode c (lead ++ '\\' :: 'u' :: trail)

/-- Any unit, without asking what it stands for. -/
def ByAnyUnit : Numbering := fun c digits => c = '\uFFFD' ∧ ∃ unit, SpellsUnit unit digits

private theorem ofPair_halves {c : Char} (beyond : 0x10000 ≤ c.toNat) :
    ofPair (0xD800 + (c.toNat - 0x10000) / 0x400) (0xDC00 + (c.toNat - 0x10000) % 0x400) = c := by
  have whole : 0x10000 + (0xD800 + (c.toNat - 0x10000) / 0x400 - 0xD800) * 0x400 +
      (0xDC00 + (c.toNat - 0x10000) % 0x400 - 0xDC00) = c.toNat := by omega
  rw [ofPair, whole, Char.ofNat_toNat]

private theorem readNumbered_byCode {c : Char} {digits : List Char} (byCode : ByCode c digits)
    (rest : List Char) : readNumbered (digits ++ rest) = .ok (c, rest) := by
  cases byCode with
  | single fits unit =>
    -- No character has the code of a half.
    have valid : c.toNat < 0xD800 ∨ 0xDFFF < c.toNat ∧ c.toNat < 0x110000 := c.valid
    have noTrail : ¬ isTrail c.toNat := by
      simp only [isTrail, Bool.and_eq_true, decide_eq_true_eq]
      omega
    have noLead : ¬ isLead c.toNat := by
      simp only [isLead, Bool.and_eq_true, decide_eq_true_eq]
      omega
    simp only [readNumbered, Reader.bind_apply, readUnit_spells unit, if_neg noTrail, if_neg noLead,
      Reader.pure_apply, Char.ofNat_toNat]
  | @pair _ lead trail beyond high low =>
    have bound : c.toNat < 0x110000 := by
      have valid : c.toNat < 0xD800 ∨ 0xDFFF < c.toNat ∧ c.toNat < 0x110000 := c.valid
      omega
    have noTrail : ¬ isTrail (0xD800 + (c.toNat - 0x10000) / 0x400) := by
      simp only [isTrail, Bool.and_eq_true, decide_eq_true_eq]
      omega
    have isLead : isLead (0xD800 + (c.toNat - 0x10000) / 0x400) := by
      simp only [isLead, Bool.and_eq_true, decide_eq_true_eq]
      omega
    have isTrail : isTrail (0xDC00 + (c.toNat - 0x10000) % 0x400) := by
      simp only [isTrail, Bool.and_eq_true, decide_eq_true_eq]
      omega
    have marks : expect ['\\', 'u'] ('\\' :: 'u' :: (trail ++ rest)) =
        .ok ((), trail ++ rest) := rfl
    simp only [readNumbered, Reader.bind_apply, List.append_assoc, List.cons_append,
      readUnit_spells high, if_neg noTrail, if_pos isLead, marks, readUnit_spells low,
      if_pos isTrail, Reader.pure_apply, ofPair_halves beyond]

private theorem skipNumbered_byAnyUnit {c : Char} {digits : List Char} (byUnit : ByAnyUnit c digits)
    (rest : List Char) : skipNumbered (digits ++ rest) = .ok (c, rest) := by
  obtain ⟨rfl, unit, spells⟩ := byUnit
  simp only [skipNumbered, Reader.bind_apply, readUnit_spells spells, Reader.pure_apply]

def shortEscapes : List (Char × Char) :=
  [('"', '"'), ('\\', '\\'), ('/', '/'), ('b', '\x08'), ('f', '\x0C'), ('n', '\n'), ('r', '\r'),
    ('t', '\t')]

inductive SpellsChar (numbers : Numbering) : Char → List Char → Prop
  | plain {c : Char} (printable : ' ' ≤ c) (noQuote : c ≠ '"') (noEscape : c ≠ '\\') :
      SpellsChar numbers c [c]
  | short {letter c : Char} (escape : (letter, c) ∈ shortEscapes) :
      SpellsChar numbers c ['\\', letter]
  | number {c : Char} {digits : List Char} (counts : numbers c digits) :
      SpellsChar numbers c ('\\' :: 'u' :: digits)

/-- The ways to write a text inside a string. -/
inductive Spells (numbers : Numbering) : List Char → List Char → Prop
  | nil : Spells numbers [] []
  | cons {c : Char} {text piece written : List Char} (head : SpellsChar numbers c piece)
      (tail : Spells numbers text written) : Spells numbers (c :: text) (piece ++ written)

theorem readEscape_short {numbered : Reader Char} {letter c : Char}
    (escape : (letter, c) ∈ shortEscapes) (rest : List Char) :
    readEscape numbered (letter :: rest) = .ok (c, rest) := by
  have known : ∀ entry ∈ shortEscapes, escaped? entry.1 = some entry.2 ∧ entry.1 ≠ 'u' := by
    simp [shortEscapes, escaped?]
  obtain ⟨found, noNumber⟩ := known _ escape
  unfold readEscape
  split
  · next same => cases same
  · next same => cases same; exact absurd rfl noNumber
  · next same => cases same; rw [found]

section Scan

variable {numbered : Reader Char} {consumes : numbered.Consumes}

theorem scanText_quote (rest : List Char) :
    scanText numbered consumes ('"' :: rest) = .ok ([], rest) := by
  rw [scanText, if_pos rfl]

theorem scanText_escape (rest : List Char) :
    scanText numbered consumes ('\\' :: rest) = (readEscape numbered rest).bind fun escape =>
      (scanText numbered consumes escape.2).map fun found => (escape.1 :: found.1, found.2) := by
  rw [scanText, if_neg (by decide), if_pos rfl]
  split
  · next failed => rw [failed]; rfl
  · next c after read =>
    rw [read]
    change _ = (scanText numbered consumes after).map _
    cases scanText numbered consumes after <;> rfl

theorem scanText_control {c : Char} (control : c < ' ') (rest : List Char) :
    scanText numbered consumes (c :: rest) = .error .malformed := by
  have noQuote : c ≠ '"' := by
    rintro rfl
    exact absurd control (by decide)
  have noEscape : c ≠ '\\' := by
    rintro rfl
    exact absurd control (by decide)
  rw [scanText, if_neg noQuote, if_neg noEscape, if_pos control]

theorem scanText_plain {c : Char} (rest : List Char) (printable : ' ' ≤ c) (noQuote : c ≠ '"')
    (noEscape : c ≠ '\\') :
    scanText numbered consumes (c :: rest) =
      (scanText numbered consumes rest).map fun found => (c :: found.1, found.2) := by
  rw [scanText, if_neg noQuote, if_neg noEscape, if_neg (Char.not_lt.mpr printable)]
  cases scanText numbered consumes rest <;> rfl

variable {numbers : Numbering}

private theorem scanText_spellsChar
    (reads : ∀ {c digits}, numbers c digits → ∀ rest, numbered (digits ++ rest) = .ok (c, rest))
    {c : Char} {piece : List Char} (spells : SpellsChar numbers c piece) (rest : List Char) :
    scanText numbered consumes (piece ++ rest) =
      (scanText numbered consumes rest).map fun found => (c :: found.1, found.2) := by
  have escaped {input : List Char} (read : readEscape numbered input = .ok (c, rest)) :
      scanText numbered consumes ('\\' :: input) =
        (scanText numbered consumes rest).map fun found => (c :: found.1, found.2) := by
    rw [scanText_escape, read]
    rfl
  cases spells with
  | plain printable noQuote noEscape => exact scanText_plain rest printable noQuote noEscape
  | short escape => exact escaped (readEscape_short escape rest)
  | number counts => exact escaped (reads counts rest)

/-- If every escape by number that counts is read, then so is every spelling that is made of
them. -/
theorem scanText_spells
    (reads : ∀ {c digits}, numbers c digits → ∀ rest, numbered (digits ++ rest) = .ok (c, rest))
    {text written : List Char} (spells : Spells numbers text written) (rest : List Char) :
    scanText numbered consumes (written ++ '"' :: rest) = .ok (text, rest) := by
  induction spells with
  | nil => exact scanText_quote rest
  | cons head tail ih =>
    rw [List.append_assoc, scanText_spellsChar reads head, ih]
    rfl

end Scan

/-- Every spelling of a text by codes is read as the text. -/
theorem readText_spells {text written : List Char} (spells : Spells ByCode text written)
    (rest : List Char) : readText (written ++ '"' :: rest) = .ok (text, rest) :=
  scanText_spells readNumbered_byCode spells rest

/-- Every string is passed over, also if its escapes by number stand for no characters. -/
theorem skipText_spells {text written : List Char} (spells : Spells ByAnyUnit text written)
    (rest : List Char) : skipText (written ++ '"' :: rest) = .ok ((), rest) := by
  simp only [skipText, Reader.bind_apply, scanText_spells skipNumbered_byAnyUnit spells,
    Reader.pure_apply]

def IsPlain (text : List Char) : Prop := ∀ c ∈ text, ' ' ≤ c ∧ c ≠ '"' ∧ c ≠ '\\'

instance (text : List Char) : Decidable (IsPlain text) := List.decidableBAll _ text

/-- A plain text may stand for itself. -/
theorem spells_self {numbers : Numbering} {text : List Char} (plain : IsPlain text) :
    Spells numbers text text := by
  induction text with
  | nil => exact .nil
  | cons c text ih =>
    obtain ⟨⟨printable, noQuote, noEscape⟩, others⟩ := List.forall_mem_cons.mp plain
    exact .cons (.plain printable noQuote noEscape) (ih others)

end Roshambo.Json
