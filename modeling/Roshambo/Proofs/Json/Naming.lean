import Roshambo.Json.Variant
import Roshambo.Proofs.Json.Lexical

/-! # The two spellings of a named value

`NameWritten` is the grammar of a value that is written by name: the name as a string, or as the
only key of an object with null behind it. `readVariant_written` says that both are read as the
name is, whether or not it is in the list.
-/

namespace Roshambo.Json

variable {keys : KeyRule}

/-- The spellings of a name as a value. -/
inductive NameWritten (name : String) : List Char → Prop
  | string {written : List Char} (spells : Spells ByCode name.toList written) :
      NameWritten name ('"' :: (written ++ ['"']))
  | tagged {written before colon null after : List Char}
      (spells : Spells ByCode name.toList written) (isBefore : IsGap before) (isColon : IsGap colon)
      (isNull : IsGap null) (isAfter : IsGap after) :
      NameWritten name ('\x7b' :: (before ++ '"' :: (written ++ '"' :: (colon ++ ':' ::
        (null ++ 'n' :: 'u' :: 'l' :: 'l' :: (after ++ ['\x7d']))))))

section Named

variable {α : Type} (variants : Variants α) {name : String}

theorem named_of_some {value : α} (found : variants.lookup name = some value) :
    variants.named name = pure value := by
  simp only [Variants.named, found]

theorem named_of_none (absent : variants.lookup name = none) :
    variants.named name =
      Reader.fail (.mismatch (.unknownVariant name (variants.map Prod.fst))) := by
  simp only [Variants.named, absent]

theorem readName_spells {written : List Char} (spells : Spells ByCode name.toList written)
    (rest : List Char) : readName variants (written ++ '"' :: rest) = variants.named name rest := by
  rw [readName, Reader.bind_of_ok (readText_spells spells rest), String.ofList_toList]

theorem readNull_gap {gap : List Char} (isGap : IsGap gap) (rest : List Char) :
    readNull (gap ++ 'n' :: 'u' :: 'l' :: 'l' :: rest) = .ok ((), rest) :=
  spaced_gap_cons _ isGap (by decide) _

theorem openKey_gap {gap : List Char} (isGap : IsGap gap) (rest : List Char) :
    openKey keys (gap ++ '"' :: rest) = .ok ((), rest) :=
  spaced_gap_cons _ isGap (by decide) rest

theorem readVariant_quote (rest : List Char) :
    readVariant keys variants ('"' :: rest) = readName variants rest :=
  spaced_cons _ (by decide) rest

theorem readVariant_bracket (rest : List Char) :
    readVariant keys variants ('\x7b' :: rest) = readTagged keys variants rest :=
  spaced_cons _ (by decide) rest

/-- Either spelling of a name is read as the name, behind any space. -/
theorem readVariant_written {gap text : List Char} (isGap : IsGap gap)
    (written : NameWritten name text) (rest : List Char) :
    readVariant keys variants (gap ++ (text ++ rest)) = variants.named name rest := by
  apply (spaced_gap _ isGap _).trans
  cases written with
  | string spells =>
    simp only [List.append_assoc, List.cons_append, List.nil_append]
    apply (readVariant_quote variants _).trans
    exact readName_spells variants spells rest
  | @tagged written before colon null after spells isBefore isColon isNull isAfter =>
    simp only [List.append_assoc, List.cons_append, List.nil_append]
    apply (readVariant_bracket variants _).trans
    have nameRead := readName_spells variants spells
      (colon ++ ':' :: (null ++ 'n' :: 'u' :: 'l' :: 'l' :: (after ++ '\x7d' :: rest)))
    rw [readTagged, Reader.bind_of_ok (openKey_gap isBefore _)]
    cases found : variants.lookup name with
    | some value =>
      rw [named_of_some variants found] at nameRead ⊢
      rw [Reader.bind_of_ok nameRead, Reader.bind_of_ok (mark_gap isColon (by decide) _),
        Reader.bind_of_ok (readNull_gap isNull _),
        Reader.bind_of_ok (mark_gap isAfter (by decide) _)]
    | none =>
      rw [named_of_none variants found] at nameRead ⊢
      exact Reader.bind_of_error nameRead _

end Named

/-- A name that some listed value has is found, with a value of that name. -/
theorem lookup_of_mem {α : Type} {values : List α} {nameOf : α → String} {name : String}
    (known : name ∈ values.map nameOf) :
    ∃ value, (values.map fun value => (nameOf value, value)).lookup name = some value ∧
      nameOf value = name := by
  induction values with
  | nil => cases known
  | cons value values ih =>
    rw [List.map_cons, List.lookup_cons]
    by_cases same : name = nameOf value
    · exact ⟨value, by rw [beq_iff_eq.mpr same], same.symm⟩
    · obtain ⟨found, isFound, hasName⟩ := ih (List.mem_of_ne_of_mem same known)
      exact ⟨found, by rw [beq_eq_false_iff_ne.mpr same, isFound], hasName⟩

theorem lookup_of_not_mem {α : Type} {values : List α} {nameOf : α → String} {name : String}
    (unknown : name ∉ values.map nameOf) :
    (values.map fun value => (nameOf value, value)).lookup name = none := by
  rw [List.lookup_eq_none_iff]
  intro entry listed
  obtain ⟨value, within, rfl⟩ := List.mem_map.mp listed
  simp only [bne_iff_ne]
  rintro rfl
  exact unknown (List.mem_map_of_mem within)

end Roshambo.Json
