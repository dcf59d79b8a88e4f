import Mathlib.Data.Bool.AllAny
import Roshambo.Text.Quoted

/-! # Quoted text read back

`unquote?` reads a quoted text off the front of a longer one. It goes through the characters once
and keeps no more than its place among the escapes, so what stands behind the closing quote has no
part in it; and whatever characters were quoted, it finds the same ones again
(`unquote?_quoteChars`). No character of a quoted text is a control or ends a line
(`keepsLine_of_mem_quoteChars`), and of its quotes only the first and the last are bare
(`bareQuotes_quoteChars`).
-/

namespace Roshambo.Text

/-- Where reading stands inside a quoted text: between characters, behind a backslash, before the
opening brace of a code point, or among the digits of one. -/
inductive Place where
  | between
  | escape
  | brace
  | digits (code : Nat)

/-- The character that a backslash and a letter stand for. -/
def ofLetter? (letter : Char) : Option Char :=
  if letter = '"' then some '"'
  else if letter = '\\' then some '\\'
  else if letter = '0' then some '\x00'
  else if letter = 't' then some '\t'
  else if letter = 'n' then some '\n'
  else if letter = 'r' then some '\r'
  else none

def letters : List Char := ['"', '\\', '0', 't', 'n', 'r']

/-- How one character may stand inside a quoted text. -/
inductive Written (c : Char) : List Char → Prop
  | byLetter {letter : Char} (isLetter : letter ∈ letters) (means : ofLetter? letter = some c) :
      Written c ['\\', letter]
  | byCode : Written c (codePointEscape c)
  | plain (noQuote : c ≠ '"') (noBackslash : c ≠ '\\') (noEscape : ¬ isEscaped c = true) :
      Written c [c]

theorem written_quoteChar (c : Char) : Written c (quoteChar c) := by
  have lettered {letter : Char} (isLetter : letter ∈ letters) (means : some c = ofLetter? letter) :
      Written c ['\\', letter] := .byLetter isLetter means.symm
  unfold quoteChar
  split
  next same => exact lettered (by decide) (congrArg some same)
  split
  next same => exact lettered (by decide) (congrArg some same)
  split
  next same => exact lettered (by decide) (congrArg some same)
  split
  next same => exact lettered (by decide) (congrArg some same)
  split
  next same => exact lettered (by decide) (congrArg some same)
  split
  next same => exact lettered (by decide) (congrArg some same)
  split
  next => exact .byCode
  next noQuote noBackslash _ _ _ _ noEscape => exact .plain noQuote noBackslash noEscape

def push (c : Char) (read : Option (List Char × List Char)) : Option (List Char × List Char) :=
  read.map fun (text, rest) => (c :: text, rest)

/-- Read the rest of a quoted text; what stands behind the closing quote is given back. -/
def unquoteFrom : Place → List Char → Option (List Char × List Char)
  | _, [] => none
  | .between, c :: rest =>
    if c = '"' then some ([], rest)
    else if c = '\\' then unquoteFrom .escape rest
    else push c (unquoteFrom .between rest)
  | .escape, c :: rest =>
    if c = 'u' then unquoteFrom .brace rest
    else match ofLetter? c with
      | some meant => push meant (unquoteFrom .between rest)
      | none => none
  | .brace, c :: rest => if c = '\x7b' then unquoteFrom (.digits 0) rest else none
  | .digits code, c :: rest =>
    if c = '\x7d' then push (Char.ofNat code) (unquoteFrom .between rest)
    else match hexValue? c with
      | some value => unquoteFrom (.digits (code * 16 + value)) rest
      | none => none

def unquote? : List Char → Option (List Char × List Char)
  | [] => none
  | c :: rest => if c = '"' then unquoteFrom .between rest else none

section Digits

theorem exists_of_mem_hexDigits {n : Nat} {d : Char} (within : d ∈ hexDigits n) :
    ∃ m < 16, d = hexDigit m := by
  fun_induction hexDigits n with
  | case1 n small => exact ⟨n, small, List.mem_singleton.mp within⟩
  | case2 n _ ih =>
    rcases List.mem_append.mp within with front | last
    · exact ih front
    · exact ⟨n % 16, Nat.mod_lt n (by decide), List.mem_singleton.mp last⟩

theorem unquoteFrom_hexDigit {value : Nat} (small : value < 16) (code : Nat) (rest : List Char) :
    unquoteFrom (.digits code) (hexDigit value :: rest) =
      unquoteFrom (.digits (code * 16 + value)) rest := by
  have noBrace : ∀ m < 16, hexDigit m ≠ '\x7d' := by decide
  rw [unquoteFrom, if_neg (noBrace value small), hexValue?_hexDigit small]

private theorem unquoteFrom_hexDigits (n : Nat) (rest : List Char) :
    unquoteFrom (.digits 0) (hexDigits n ++ rest) = unquoteFrom (.digits n) rest := by
  fun_induction hexDigits n generalizing rest with
  | case1 n small =>
    rw [List.singleton_append, unquoteFrom_hexDigit small, Nat.zero_mul, Nat.zero_add]
  | case2 n _ ih =>
    rw [List.append_assoc, ih, List.singleton_append,
      unquoteFrom_hexDigit (Nat.mod_lt n (by decide)), Nat.mul_comm, Nat.div_add_mod]

end Digits

section Reading

private theorem unquoteFrom_codePointEscape (c : Char) (rest : List Char) :
    unquoteFrom .between (codePointEscape c ++ rest) = push c (unquoteFrom .between rest) := by
  have opened : unquoteFrom .between (codePointEscape c ++ rest) =
      unquoteFrom (.digits 0) (hexDigits c.toNat ++ ['\x7d'] ++ rest) := rfl
  have closed : unquoteFrom (.digits c.toNat) ('\x7d' :: rest) =
      push (Char.ofNat c.toNat) (unquoteFrom .between rest) := rfl
  rw [opened, List.append_assoc, unquoteFrom_hexDigits, List.singleton_append, closed,
    Char.ofNat_toNat]

private theorem unquoteFrom_quoteChar (c : Char) (rest : List Char) :
    unquoteFrom .between (quoteChar c ++ rest) = push c (unquoteFrom .between rest) := by
  have written := written_quoteChar c
  generalize quoteChar c = chars at written ⊢
  cases written with
  | @byLetter letter isLetter means =>
    have noCode : ∀ d ∈ letters, d ≠ 'u' := List.all_iff_forall_prop.mp (by decide)
    have opened : unquoteFrom .between (['\\', letter] ++ rest) =
        unquoteFrom .escape (letter :: rest) := rfl
    rw [opened, unquoteFrom, if_neg (noCode letter isLetter), means]
  | byCode => exact unquoteFrom_codePointEscape c rest
  | plain noQuote noBackslash =>
    rw [List.singleton_append, unquoteFrom, if_neg noQuote, if_neg noBackslash]

private theorem unquoteFrom_flatMap (text rest : List Char) :
    unquoteFrom .between (text.flatMap quoteChar ++ '"' :: rest) = some (text, rest) := by
  induction text with
  | nil => rfl
  | cons c text ih =>
    rw [List.flatMap_cons, List.append_assoc, unquoteFrom_quoteChar, ih]
    rfl

/-- A quoted text is read back, whatever stands behind it. -/
theorem unquote?_quoteChars (text rest : List Char) :
    unquote? (quoteChars text ++ rest) = some (text, rest) := by
  rw [quoteChars, List.cons_append, unquote?, if_pos rfl, List.append_assoc]
  exact unquoteFrom_flatMap text rest

end Reading

section Line

/-- A character that is no control and ends no line. -/
def KeepsLine (c : Char) : Prop :=
  0x20 ≤ c.toNat ∧ (c.toNat < 0x7F ∨ 0x9F < c.toNat) ∧ c.toNat ≠ 0x2028 ∧ c.toNat ≠ 0x2029

instance (c : Char) : Decidable (KeepsLine c) :=
  inferInstanceAs (Decidable
    (0x20 ≤ c.toNat ∧ (c.toNat < 0x7F ∨ 0x9F < c.toNat) ∧ c.toNat ≠ 0x2028 ∧ c.toNat ≠ 0x2029))

private theorem keepsLine_of_not_isEscaped {c : Char} (plain : ¬ isEscaped c = true) :
    KeepsLine c := by
  have line : c.toNat ≠ 0x2028 := by
    intro same
    have separator : c = '\u2028' := Char.toNat_inj.mp same
    subst separator
    exact plain (by decide)
  have paragraph : c.toNat ≠ 0x2029 := by
    intro same
    have separator : c = '\u2029' := Char.toNat_inj.mp same
    subst separator
    exact plain (by decide)
  have noControl : isControl c = false := by
    simp only [isEscaped, Bool.or_eq_true, not_or, Bool.not_eq_true] at plain
    exact plain.1.1
  simp only [isControl, Bool.or_eq_false_iff, Bool.and_eq_false_iff, decide_eq_false_iff_not]
    at noControl
  exact ⟨by omega, by omega, line, paragraph⟩

private theorem keepsLine_of_mem_codePointEscape {c d : Char} (within : d ∈ codePointEscape c) :
    KeepsLine d := by
  simp only [codePointEscape, List.mem_cons, List.mem_append, List.not_mem_nil, or_false] at within
  rcases within with rfl | rfl | rfl | digit | rfl
  · decide
  · decide
  · decide
  · obtain ⟨m, small, rfl⟩ := exists_of_mem_hexDigits digit
    have every : ∀ m < 16, KeepsLine (hexDigit m) := by decide
    exact every m small
  · decide

private theorem keepsLine_of_mem_quoteChar {c d : Char} (within : d ∈ quoteChar c) :
    KeepsLine d := by
  have written := written_quoteChar c
  generalize quoteChar c = chars at written within
  cases written with
  | @byLetter letter isLetter =>
    have every : ∀ e ∈ letters, KeepsLine e := List.all_iff_forall_prop.mp (by decide)
    rcases List.mem_cons.mp within with rfl | last
    · decide
    · exact List.mem_singleton.mp last ▸ every letter isLetter
  | byCode => exact keepsLine_of_mem_codePointEscape within
  | plain _ _ noEscape => exact List.mem_singleton.mp within ▸ keepsLine_of_not_isEscaped noEscape

/-- A quoted text stays on its line. -/
theorem keepsLine_of_mem_quoteChars {text : List Char} {d : Char} (within : d ∈ quoteChars text) :
    KeepsLine d := by
  simp only [quoteChars, List.mem_cons, List.mem_append, List.mem_flatMap, List.not_mem_nil,
    or_false] at within
  rcases within with rfl | ⟨c, _, inChar⟩ | rfl
  · decide
  · exact keepsLine_of_mem_quoteChar inChar
  · decide

end Line

section Quotes

/-- The places of the quotes that no backslash escapes. A backslash escapes the character behind it
unless it is escaped itself. -/
def bareQuotes : (escaped : Bool) → (place : Nat) → List Char → List Nat
  | _, _, [] => []
  | true, place, _ :: rest => bareQuotes false (place + 1) rest
  | false, place, c :: rest =>
    if c = '"' then place :: bareQuotes false (place + 1) rest
    else bareQuotes (c == '\\') (place + 1) rest

theorem bareQuotes_append_of_plain {front : List Char}
    (plain : ∀ c ∈ front, c ≠ '"' ∧ c ≠ '\\') (place : Nat) (rest : List Char) :
    bareQuotes false place (front ++ rest) = bareQuotes false (place + front.length) rest := by
  induction front generalizing place with
  | nil => rfl
  | cons c front ih =>
    obtain ⟨noQuote, noBackslash⟩ := plain c (List.mem_cons_self ..)
    have others := ih fun d within => plain d (List.mem_cons_of_mem c within)
    rw [List.cons_append, bareQuotes, if_neg noQuote, beq_eq_false_iff_ne.mpr noBackslash, others,
      List.length_cons, Nat.add_right_comm, Nat.add_assoc]

private theorem bareQuotes_codePointEscape (c : Char) (place : Nat) (rest : List Char) :
    bareQuotes false place (codePointEscape c ++ rest) =
      bareQuotes false (place + (codePointEscape c).length) rest := by
  have plain : ∀ d ∈ '\x7b' :: (hexDigits c.toNat ++ ['\x7d']), d ≠ '"' ∧ d ≠ '\\' := by
    intro d within
    simp only [List.mem_cons, List.mem_append, List.not_mem_nil, or_false] at within
    rcases within with rfl | digit | rfl
    · decide
    · obtain ⟨m, small, rfl⟩ := exists_of_mem_hexDigits digit
      have every : ∀ m < 16, hexDigit m ≠ '"' ∧ hexDigit m ≠ '\\' := by decide
      exact every m small
    · decide
  have opened : bareQuotes false place (codePointEscape c ++ rest) =
      bareQuotes false (place + 1 + 1) ('\x7b' :: (hexDigits c.toNat ++ ['\x7d']) ++ rest) := rfl
  rw [opened, bareQuotes_append_of_plain plain]
  congr 1
  simp only [codePointEscape, List.length_cons]
  omega

private theorem bareQuotes_quoteChar (c : Char) (place : Nat) (rest : List Char) :
    bareQuotes false place (quoteChar c ++ rest) =
      bareQuotes false (place + (quoteChar c).length) rest := by
  have written := written_quoteChar c
  generalize quoteChar c = chars at written ⊢
  cases written with
  | byLetter => rfl
  | byCode => exact bareQuotes_codePointEscape c place rest
  | plain noQuote noBackslash =>
    refine bareQuotes_append_of_plain (fun d within => ?_) place rest
    exact List.mem_singleton.mp within ▸ ⟨noQuote, noBackslash⟩

private theorem bareQuotes_flatMap (text : List Char) (place : Nat) (rest : List Char) :
    bareQuotes false place (text.flatMap quoteChar ++ rest) =
      bareQuotes false (place + (text.flatMap quoteChar).length) rest := by
  induction text generalizing place with
  | nil => rfl
  | cons c text ih =>
    rw [List.flatMap_cons, List.append_assoc, bareQuotes_quoteChar, ih, List.length_append,
      Nat.add_assoc]

/-- The quotes around a quoted text are its only bare ones. -/
theorem bareQuotes_quoteChars (text : List Char) (place : Nat) (rest : List Char) :
    bareQuotes false place (quoteChars text ++ rest) =
      place :: (place + 1 + (text.flatMap quoteChar).length) ::
        bareQuotes false (place + (quoteChars text).length) rest := by
  have opened : bareQuotes false place (quoteChars text ++ rest) =
      place :: bareQuotes false (place + 1) (text.flatMap quoteChar ++ ['"'] ++ rest) := rfl
  have closed (place : Nat) : bareQuotes false place ('"' :: rest) =
      place :: bareQuotes false (place + 1) rest := rfl
  rw [opened, List.append_assoc, bareQuotes_flatMap, List.singleton_append, closed]
  simp only [quoteChars, List.length_cons, List.length_append, List.length_nil]
  congr 3
  omega

end Quotes

end Roshambo.Text
