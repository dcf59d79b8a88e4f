import Roshambo.Proofs.Json.Accepted

/-! # The texts that stand for a named value

A value that is written by name is decoded from the two spellings of its name with any space around
them, and from no other text. A string in the place of the name decides by itself: if it is the name
of no value, the answer lists the names that there are, whatever stands behind the string
(`NameAhead`). The main statement is `ofJson_named`, which says both of moves and of outcomes.
-/

namespace Roshambo.Json

variable {keys : KeyRule}

/-- The texts that begin with the string of a name, or with a bracket and then the string. Anything
may follow. -/
inductive NameAhead (name : String) : List Char → Prop
  | string {gap written : List Char} (isGap : IsGap gap)
      (spells : Spells ByCode name.toList written) (rest : List Char) :
      NameAhead name (gap ++ '"' :: (written ++ '"' :: rest))
  | tagged {gap inside written : List Char} (isGap : IsGap gap) (isInside : IsGap inside)
      (spells : Spells ByCode name.toList written) (rest : List Char) :
      NameAhead name (gap ++ '\x7b' :: (inside ++ '"' :: (written ++ '"' :: rest)))

/-- Values are decoded from the spellings of their names; any other name is answered with a listing
of the names, as soon as its string ends. -/
structure DecodesNames {α : Type} (decoder : String → Except Problem α) (nameOf : α → String)
    (names : List String) (listed : String) : Prop where
  known : ∀ text value, decoder text = .ok value ↔ Padded (NameWritten (nameOf value)) text.toList
  unknown : ∀ text name, NameAhead name text.toList → name ∉ names → ∃ mismatch,
    decoder text = .error (.mismatch mismatch) ∧
      mismatch.message = "unknown variant `" ++ name ++ "`, expected one of " ++ listed

section Named

variable {α : Type}

theorem readName_of_none {variants : Variants α} {name : String} {written : List Char}
    (absent : variants.lookup name = none) (spells : Spells ByCode name.toList written)
    (rest : List Char) :
    readName variants (written ++ '"' :: rest) =
      .error (.mismatch (.unknownVariant name (variants.map Prod.fst))) := by
  rw [readName_spells variants spells rest, named_of_none variants absent]
  rfl

private theorem readVariant_of_none {variants : Variants α} {name : String} {text : List Char}
    (absent : variants.lookup name = none) (ahead : NameAhead name text) :
    readVariant keys variants text =
      .error (.mismatch (.unknownVariant name (variants.map Prod.fst))) := by
  cases ahead with
  | string isGap spells rest =>
    apply (spaced_gap _ isGap _).trans
    apply (readVariant_quote variants _).trans
    exact readName_of_none absent spells rest
  | tagged isGap isInside spells rest =>
    apply (spaced_gap _ isGap _).trans
    apply (readVariant_bracket variants _).trans
    rw [readTagged, Reader.bind_of_ok (openKey_gap isInside _)]
    exact Reader.bind_of_error (readName_of_none absent spells rest) _

variable {values : List α} {nameOf : α → String}

private theorem padded_of_decode {text : String} {value : α}
    (decoded : decode (readVariant keys (values.map fun value => (nameOf value, value))) text =
      .ok value) :
    Padded (NameWritten (nameOf value)) text.toList := by
  obtain ⟨_, after, ⟨gap, inner, isGap, written, rfl⟩, isAfter, whole⟩ :=
    exists_of_decode readVariant_takes decoded
  rw [whole, List.append_assoc]
  exact .between isGap written isAfter

private theorem decode_of_padded {text : String} {value : α}
    (known : (values.map fun value => (nameOf value, value)).lookup (nameOf value) = some value)
    (padded : Padded (NameWritten (nameOf value)) text.toList) :
    decode (readVariant keys (values.map fun value => (nameOf value, value))) text = .ok value := by
  generalize whole : text.toList = input at padded
  cases padded with
  | @between _ _ after isBefore within isAfter =>
    have read := @readVariant_known keys _ _ _ _ _ _ known isBefore within after
    rw [← whole] at read
    exact @decode_of_answer _ _ _ (.ok value) _ isAfter read

/-- Values whose names are found among the listed ones are decoded by name. -/
theorem decodesNames (field : Round.Field) (sameNames : values.map nameOf = fieldNames field)
    (known : ∀ value, (values.map fun value => (nameOf value, value)).lookup (nameOf value) =
      some value) :
    DecodesNames (decode (readVariant keys (values.map fun value => (nameOf value, value)))) nameOf
      (fieldNames field) (listing field) where
  known _ _ := ⟨padded_of_decode, decode_of_padded (known _)⟩
  unknown text name ahead unlisted := by
    rw [← sameNames] at unlisted
    have names : (values.map fun value => (nameOf value, value)).map Prod.fst =
        fieldNames field := by
      rw [List.map_map, ← sameNames]
      rfl
    refine ⟨.unknownVariant name (fieldNames field), ?_, unknownVariant_message field name⟩
    rw [decode, readVariant_of_none (lookup_of_not_mem unlisted) ahead, names]

end Named

end Roshambo.Json

namespace Roshambo

open Json

/-- Exactly the spellings of the names are decoded, each to the value of its name, and any other
name is answered with the names that there are. -/
theorem ofJson_named :
    DecodesNames Move.ofJson Move.name ["Rock", "Paper", "Scissors"]
        "`Rock`, `Paper`, `Scissors`" ∧
      DecodesNames Outcome.ofJson Outcome.name ["Win", "Loss", "Draw"]
        "`Win`, `Loss`, `Draw`" := by
  constructor
  · exact @decodesNames .malformed _ Move.all Move.name .player rfl lookup_move
  · exact @decodesNames .malformed _ Outcome.all Outcome.name .result rfl lookup_outcome

/-- A name of one character beyond the first plane, written as two halves with digits of both
cases, in an object that breaks off behind it. -/
theorem ofJson_named_halves :
    let text : String := "\x7b \"\\uD83D\\udca3\" ?"
    NameAhead "💣" text.toList ∧ "💣" ∉ ["Rock", "Paper", "Scissors"] ∧
      ∃ mismatch, Move.ofJson text = .error (.mismatch mismatch) ∧
        mismatch.message =
          "unknown variant `" ++ "💣" ++ "`, expected one of `Rock`, `Paper`, `Scissors`" := by
  intro text
  have noGap : IsGap [] := by decide
  have space : IsGap [' '] := by decide
  have lead : SpellsUnit 0xD83D ['D', '8', '3', 'D'] :=
    .digits (by decide) (by decide) (by decide) (by decide)
  have trail : SpellsUnit 0xDCA3 ['d', 'c', 'a', '3'] :=
    .digits (by decide) (by decide) (by decide) (by decide)
  have spells : Spells ByCode "💣".toList _ :=
    .cons (.number (.pair (by decide) lead trail)) .nil
  have ahead : NameAhead "💣" text.toList := by
    apply (congrArg (NameAhead _) ?_).mpr (.tagged noGap space spells [' ', '?'])
    decide +kernel
  have unlisted : "💣" ∉ ["Rock", "Paper", "Scissors"] := by decide
  exact ⟨ahead, unlisted, ofJson_named.1.unknown text "💣" ahead unlisted⟩

end Roshambo
