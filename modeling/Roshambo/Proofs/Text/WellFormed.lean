import Roshambo.Text.Utf8

/-! # Bytes that are text, and bytes that are not

`IsSequence` lists the byte sequences that encode one character. Where none of them stands, the
bytes have a flaw: the longest beginning of a sequence that goes no further, or a byte that begins
none. `Decodes` says what bytes are read as, each flaw being one replacement character, and leaves
no choice (`Decodes.unique`); it is what `decodeChars` gives (`decodes_decodeChars`). So a text is
read back from its own bytes, and bytes that are no text keep a replacement character wherever they
have a flaw (`decodeChars_flaw`).
-/

namespace Roshambo.Text

def IsTail (byte : UInt8) : Prop := 0x80 ≤ byte ∧ byte ≤ 0xBF

/-- The sequences that encode a character. The bounds on second bytes leave out longer forms,
surrogates, and what is beyond the last code point. -/
inductive IsSequence : List UInt8 → Prop
  | one {a : UInt8} (first : a ≤ 0x7F) : IsSequence [a]
  | two {a b : UInt8} (first : 0xC2 ≤ a ∧ a ≤ 0xDF) (second : IsTail b) : IsSequence [a, b]
  | three {a b c : UInt8} (first : 0xE0 ≤ a ∧ a ≤ 0xEF) (second : IsTail b) (third : IsTail c)
      (shortest : a = 0xE0 → 0xA0 ≤ b) (noSurrogate : a = 0xED → b ≤ 0x9F) : IsSequence [a, b, c]
  | four {a b c d : UInt8} (first : 0xF0 ≤ a ∧ a ≤ 0xF4) (second : IsTail b) (third : IsTail c)
      (fourth : IsTail d) (shortest : a = 0xF0 → 0x90 ≤ b) (inRange : a = 0xF4 → b ≤ 0x8F) :
      IsSequence [a, b, c, d]

/-- Some bytes with which a sequence begins, or which are one. -/
def Begins (bytes : List UInt8) : Prop := ∃ missing, IsSequence (bytes ++ missing)

/-- What is wrong where a sequence should begin: a byte that begins none, or the longest beginning
of one that is not completed. -/
inductive Flaw : List UInt8 → List UInt8 → Prop
  | alone {a : UInt8} {rest : List UInt8} (beginsNone : ¬ Begins [a]) : Flaw [a] rest
  | cut {bad rest : List UInt8} (nonempty : bad ≠ []) (begins : Begins bad)
      (unfinished : ¬ IsSequence bad) (ends : ∀ byte ∈ rest.head?, ¬ Begins (bad ++ [byte])) :
      Flaw bad rest

/-- What bytes are read as: each sequence as its character, each flaw as one replacement. -/
inductive Decodes : List UInt8 → List Char → Prop
  | nil : Decodes [] []
  | char {rest : List UInt8} {text : List Char} (c : Char) (decodes : Decodes rest text) :
      Decodes (String.utf8EncodeChar c ++ rest) (c :: text)
  | flaw {bad rest : List UInt8} {text : List Char} (isFlaw : Flaw bad rest)
      (decodes : Decodes rest text) : Decodes (bad ++ rest) (replacement :: text)

section Sequence

def tailLength (a : UInt8) : Nat :=
  if a ≤ 0x7F then 0 else if a ≤ 0xDF then 1 else if a ≤ 0xEF then 2 else 3

theorem IsSequence.ne_nil {bytes : List UInt8} (isSequence : IsSequence bytes) : bytes ≠ [] := by
  cases isSequence <;> exact List.cons_ne_nil _ _

theorem IsSequence.length_tail {a : UInt8} {tail : List UInt8}
    (isSequence : IsSequence (a :: tail)) : tail.length = tailLength a := by
  unfold tailLength
  cases isSequence with
  | one first => rw [if_pos first]; rfl
  | two first => grind
  | three first => grind
  | four first => grind

/-- The bytes that stand in sequences. -/
theorem IsSequence.used {bytes : List UInt8} {byte : UInt8} (isSequence : IsSequence bytes)
    (within : byte ∈ bytes) : byte ≤ 0xBF ∨ 0xC2 ≤ byte ∧ byte ≤ 0xF4 := by
  cases isSequence with
  | one first => grind
  | two first second => grind [IsTail]
  | three first second third => grind [IsTail]
  | four first second third fourth => grind [IsTail]

/-- A sequence says by its first byte where it ends. -/
theorem IsSequence.unique {first second rest more : List UInt8} (isFirst : IsSequence first)
    (isSecond : IsSequence second) (same : first ++ rest = second ++ more) :
    first = second ∧ rest = more := by
  match first, second, isFirst.ne_nil, isSecond.ne_nil with
  | a :: tail, b :: other, _, _ =>
    obtain ⟨rfl, sameRest⟩ := List.cons.inj same
    have length := isFirst.length_tail.trans isSecond.length_tail.symm
    obtain ⟨rfl, rfl⟩ := List.append_inj sameRest length
    exact ⟨rfl, rfl⟩

theorem Begins.of_append {front back : List UInt8} (begins : Begins (front ++ back)) :
    Begins front := by
  obtain ⟨missing, isSequence⟩ := begins
  rw [List.append_assoc] at isSequence
  exact ⟨_, isSequence⟩

theorem Begins.head {a : UInt8} {tail : List UInt8} (begins : Begins (a :: tail)) : Begins [a] := by
  rw [← List.singleton_append] at begins
  exact begins.of_append

theorem Flaw.ne_nil {bad rest : List UInt8} (isFlaw : Flaw bad rest) : bad ≠ [] := by
  cases isFlaw with
  | alone => exact List.cons_ne_nil _ _
  | cut nonempty => exact nonempty

/-- Where a sequence stands there is no flaw. -/
theorem Flaw.not_sequence {bad rest bytes more : List UInt8} (isFlaw : Flaw bad rest)
    (isSequence : IsSequence bytes) : bad ++ rest ≠ bytes ++ more := by
  intro same
  cases isFlaw with
  | @alone a _ beginsNone =>
    match bytes, isSequence.ne_nil with
    | b :: tail, _ =>
      obtain ⟨rfl, _⟩ := List.cons.inj same
      exact beginsNone ⟨tail, isSequence⟩
  | cut _ begins unfinished ends =>
    rcases List.append_eq_append_iff.mp same with ⟨middle, rfl, rfl⟩ | ⟨middle, rfl, rfl⟩
    · -- The flaw is a beginning of the sequence, so it would have gone on.
      cases middle with
      | nil => exact unfinished (List.append_nil bad ▸ isSequence)
      | cons byte middle =>
        refine ends byte rfl ⟨middle, ?_⟩
        rw [List.append_assoc]
        exact isSequence
    · -- The sequence is a beginning of the flaw, and no sequence is a beginning of another.
      obtain ⟨missing, whole⟩ := begins
      have ended : (bytes ++ middle ++ missing) ++ [] = bytes ++ (middle ++ missing) := by
        rw [List.append_nil, List.append_assoc]
      obtain ⟨_, nothing⟩ := whole.unique isSequence ended
      rw [(List.append_eq_nil_iff.mp nothing.symm).1, List.append_nil] at unfinished
      exact unfinished isSequence

/-- A flaw that may go on is no shorter than another one at its place. -/
theorem Flaw.prefix_of_cut {bad rest other more : List UInt8} (begins : Begins bad)
    (isOther : Flaw other more) (same : bad ++ rest = other ++ more) : bad <+: other := by
  rcases List.append_eq_append_iff.mp same with ⟨middle, rfl, _⟩ | ⟨middle, rfl, rfl⟩
  · exact List.prefix_append _ _
  · cases middle with
    | nil => exact ⟨[], by rw [List.append_nil, List.append_nil]⟩
    | cons byte middle =>
      cases isOther with
      | alone beginsNone => exact absurd begins.of_append beginsNone
      | cut _ _ _ ends =>
        rw [← List.singleton_append, ← List.append_assoc] at begins
        exact absurd begins.of_append (ends byte rfl)

/-- A place has one flaw only. -/
theorem Flaw.unique {bad rest other more : List UInt8} (isFlaw : Flaw bad rest)
    (isOther : Flaw other more) (same : bad ++ rest = other ++ more) :
    bad = other ∧ rest = more := by
  have equal : bad = other := by
    cases isFlaw with
    | @alone a _ beginsNone =>
      cases isOther with
      | @alone b => rw [(List.cons.inj same).1]
      | cut nonempty begins =>
        match other, nonempty with
        | b :: tail, _ =>
          obtain ⟨rfl, _⟩ := List.cons.inj same
          exact absurd begins.head beginsNone
    | cut nonempty begins unfinished ends =>
      have front := Flaw.prefix_of_cut begins isOther same
      cases isOther with
      | @alone b _ beginsNone =>
        match bad, nonempty with
        | a :: tail, _ =>
          obtain ⟨rfl, _⟩ := List.cons.inj same
          exact absurd begins.head beginsNone
      | cut _ alsoBegins alsoUnfinished alsoEnds =>
        have back := Flaw.prefix_of_cut alsoBegins (.cut nonempty begins unfinished ends) same.symm
        exact front.eq_of_length_le back.length_le
  subst equal
  exact ⟨rfl, List.append_cancel_left same⟩

end Sequence

section Character

def leadBits (a : UInt8) : Nat :=
  if a ≤ 0x7F then a.toNat else if a ≤ 0xDF then a.toNat - 0xC0
  else if a ≤ 0xEF then a.toNat - 0xE0 else a.toNat - 0xF0

def addBits (bits : Nat) (byte : UInt8) : Nat := bits * 64 + byte.toNat % 64

def codePoint : List UInt8 → Nat
  | [] => 0
  | a :: tail => tail.foldl addBits (leadBits a)

private theorem codePoint_concat {front : List UInt8} (nonempty : front ≠ []) (byte : UInt8) :
    codePoint (front ++ [byte]) = addBits (codePoint front) byte := by
  cases front with
  | nil => exact absurd rfl nonempty
  | cons a tail => exact List.foldl_append

theorem isSequence_encodeChar (c : Char) : IsSequence (String.utf8EncodeChar c) := by
  have valid : c.val.toNat < 0xD800 ∨ 0xDFFF < c.val.toNat ∧ c.val.toNat < 0x110000 := c.valid
  unfold String.utf8EncodeChar
  generalize c.val.toNat = n at valid
  simp only
  split
  · refine .one ?_
    simp only [UInt8.le_iff_toNat_le, UInt8.toNat_ofNat', UInt8.reduceToNat]
    omega
  split
  · refine .two ⟨?_, ?_⟩ ⟨?_, ?_⟩ <;>
      simp only [UInt8.le_iff_toNat_le, UInt8.toNat_ofNat', UInt8.reduceToNat] <;> omega
  split
  · refine .three ⟨?_, ?_⟩ ⟨?_, ?_⟩ ⟨?_, ?_⟩ ?_ ?_ <;>
      simp only [UInt8.le_iff_toNat_le, ← UInt8.toNat_inj, UInt8.toNat_ofNat',
        UInt8.reduceToNat] <;> omega
  · refine .four ⟨?_, ?_⟩ ⟨?_, ?_⟩ ⟨?_, ?_⟩ ⟨?_, ?_⟩ ?_ ?_ <;>
      simp only [UInt8.le_iff_toNat_le, ← UInt8.toNat_inj, UInt8.toNat_ofNat',
        UInt8.reduceToNat] <;> omega

theorem codePoint_encodeChar (c : Char) : codePoint (String.utf8EncodeChar c) = c.toNat := by
  have valid : c.val.toNat < 0xD800 ∨ 0xDFFF < c.val.toNat ∧ c.val.toNat < 0x110000 := c.valid
  change _ = c.val.toNat
  unfold String.utf8EncodeChar
  generalize c.val.toNat = n at valid
  simp only
  split
  · simp only [codePoint, leadBits, List.foldl_nil, UInt8.le_iff_toNat_le, UInt8.toNat_ofNat',
      UInt8.reduceToNat]
    rw [if_pos (by omega)]
    omega
  split
  · simp only [codePoint, leadBits, addBits, List.foldl_cons, List.foldl_nil,
      UInt8.le_iff_toNat_le, UInt8.toNat_ofNat', UInt8.reduceToNat]
    rw [if_neg (by omega), if_pos (by omega)]
    omega
  split
  · simp only [codePoint, leadBits, addBits, List.foldl_cons, List.foldl_nil,
      UInt8.le_iff_toNat_le, UInt8.toNat_ofNat', UInt8.reduceToNat]
    rw [if_neg (by omega), if_neg (by omega), if_pos (by omega)]
    omega
  · simp only [codePoint, leadBits, addBits, List.foldl_cons, List.foldl_nil,
      UInt8.le_iff_toNat_le, UInt8.toNat_ofNat', UInt8.reduceToNat]
    rw [if_neg (by omega), if_neg (by omega), if_neg (by omega)]
    omega

theorem encodeChar_injective {c d : Char}
    (same : String.utf8EncodeChar c = String.utf8EncodeChar d) : c = d := by
  apply Char.toNat_inj.mp
  rw [← codePoint_encodeChar c, same, codePoint_encodeChar]

/-- A sequence encodes the character whose bits it holds. -/
private theorem encodeChar_codePoint {bytes : List UInt8} (isSequence : IsSequence bytes) :
    String.utf8EncodeChar (Char.ofNat (codePoint bytes)) = bytes := by
  have val_ofNat {n : Nat} (valid : n.isValidChar) : (Char.ofNat n).val.toNat = n :=
    toNat_ofNat_of_valid valid
  cases isSequence with
  | @one a first =>
    simp only [UInt8.le_iff_toNat_le, UInt8.reduceToNat] at first
    have bits : codePoint [a] = a.toNat := if_pos first
    have valid : a.toNat.isValidChar := .inl (by omega)
    rw [bits, String.utf8EncodeChar]
    simp only [val_ofNat valid]
    rw [if_pos first, UInt8.ofNat_toNat]
  | @two a b first second =>
    simp only [IsTail, UInt8.le_iff_toNat_le, UInt8.reduceToNat] at first second
    have bits : codePoint [a, b] = (a.toNat - 0xC0) * 64 + b.toNat % 64 := by
      simp only [codePoint, leadBits, addBits, List.foldl_cons, List.foldl_nil,
        UInt8.le_iff_toNat_le, UInt8.reduceToNat]
      rw [if_neg (by omega), if_pos (by omega)]
    rw [bits, String.utf8EncodeChar]
    generalize same : (a.toNat - 0xC0) * 64 + b.toNat % 64 = n
    have valid : n.isValidChar := .inl (by omega)
    simp only [val_ofNat valid]
    rw [if_neg (by omega), if_pos (by omega)]
    simp only [List.cons.injEq, and_true, ← UInt8.toNat_inj, UInt8.toNat_ofNat']
    omega
  | @three a b c first second third shortest noSurrogate =>
    simp only [IsTail, UInt8.le_iff_toNat_le, ← UInt8.toNat_inj, UInt8.reduceToNat] at *
    have bits : codePoint [a, b, c] =
        ((a.toNat - 0xE0) * 64 + b.toNat % 64) * 64 + c.toNat % 64 := by
      simp only [codePoint, leadBits, addBits, List.foldl_cons, List.foldl_nil,
        UInt8.le_iff_toNat_le, UInt8.reduceToNat]
      rw [if_neg (by omega), if_neg (by omega), if_pos (by omega)]
    rw [bits, String.utf8EncodeChar]
    generalize same : ((a.toNat - 0xE0) * 64 + b.toNat % 64) * 64 + c.toNat % 64 = n
    have valid : n.isValidChar := by
      unfold Nat.isValidChar
      omega
    simp only [val_ofNat valid]
    rw [if_neg (by omega), if_neg (by omega), if_pos (by omega)]
    simp only [List.cons.injEq, and_true, ← UInt8.toNat_inj, UInt8.toNat_ofNat']
    omega
  | @four a b c d first second third fourth shortest inRange =>
    simp only [IsTail, UInt8.le_iff_toNat_le, ← UInt8.toNat_inj, UInt8.reduceToNat] at *
    have bits : codePoint [a, b, c, d] =
        (((a.toNat - 0xF0) * 64 + b.toNat % 64) * 64 + c.toNat % 64) * 64 + d.toNat % 64 := by
      simp only [codePoint, leadBits, addBits, List.foldl_cons, List.foldl_nil,
        UInt8.le_iff_toNat_le, UInt8.reduceToNat]
      rw [if_neg (by omega), if_neg (by omega), if_neg (by omega)]
    rw [bits, String.utf8EncodeChar]
    generalize same :
      (((a.toNat - 0xF0) * 64 + b.toNat % 64) * 64 + c.toNat % 64) * 64 + d.toNat % 64 = n
    have valid : n.isValidChar := by
      unfold Nat.isValidChar
      omega
    simp only [val_ofNat valid]
    rw [if_neg (by omega), if_neg (by omega), if_neg (by omega)]
    simp only [List.cons.injEq, and_true, ← UInt8.toNat_inj, UInt8.toNat_ofNat']
    omega

end Character

section Decoding

/-- Bytes that complete a sequence of which a number of bytes are due, the next one within a
range. -/
inductive Completes : Nat → UInt8 → UInt8 → List UInt8 → Prop
  | done {low high : UInt8} : Completes 0 low high []
  | next {due : Nat} {low high byte : UInt8} {rest : List UInt8}
      (inRange : low ≤ byte ∧ byte ≤ high) (completes : Completes due 0x80 0xBF rest) :
      Completes (due + 1) low high (byte :: rest)

theorem completes_cons {due : Nat} {low high byte : UInt8} {rest : List UInt8} :
    Completes (due + 1) low high (byte :: rest) ↔
      (low ≤ byte ∧ byte ≤ high) ∧ Completes due 0x80 0xBF rest :=
  ⟨fun completes => by cases completes; exact ⟨‹_›, ‹_›⟩, fun ⟨inRange, rest⟩ => .next inRange rest⟩

private theorem exists_completes (due : Nat) {low high : UInt8} (range : low ≤ high) :
    ∃ rest, Completes due low high rest := by
  induction due generalizing low high with
  | zero => exact ⟨[], .done⟩
  | succ due ih =>
    obtain ⟨rest, completes⟩ := @ih 0x80 0xBF (by decide)
    exact ⟨low :: rest, .next ⟨UInt8.le_refl low, range⟩ completes⟩

/-- The bytes so far are the beginning of the sequences that are completed in a certain way, and of
no others. -/
def Owes (front : List UInt8) (due : Nat) (low high : UInt8) : Prop :=
  ∀ rest, IsSequence (front ++ rest) ↔ Completes due low high rest

theorem Owes.begins {front : List UInt8} {due : Nat} {low high : UInt8}
    (owes : Owes front due low high) (range : low ≤ high) : Begins front := by
  obtain ⟨rest, completes⟩ := exists_completes due range
  exact ⟨rest, (owes rest).mpr completes⟩

theorem Owes.step {front : List UInt8} {due : Nat} {low high byte : UInt8}
    (owes : Owes front (due + 1) low high) (inRange : low ≤ byte ∧ byte ≤ high) :
    Owes (front ++ [byte]) due 0x80 0xBF := by
  intro rest
  rw [List.append_assoc, List.singleton_append, owes, completes_cons]
  exact and_iff_right inRange

theorem Owes.unfinished {front : List UInt8} {due : Nat} {low high : UInt8}
    (owes : Owes front (due + 1) low high) : ¬ IsSequence front := by
  intro isSequence
  have completes := (owes []).mp (by rwa [List.append_nil])
  cases completes

theorem Owes.ends {front : List UInt8} {due : Nat} {low high byte : UInt8}
    (owes : Owes front (due + 1) low high) (outside : ¬ (low ≤ byte ∧ byte ≤ high)) :
    ¬ Begins (front ++ [byte]) := by
  rintro ⟨missing, isSequence⟩
  rw [List.append_assoc, List.singleton_append, owes, completes_cons] at isSequence
  exact outside isSequence.1

/-- One sequence read as its character, or one flaw as a replacement, and what is left behind it. -/
inductive Reads : List UInt8 → Char × List UInt8 → Prop
  | sequence {taken rest : List UInt8} (isSequence : IsSequence taken) :
      Reads (taken ++ rest) (Char.ofNat (codePoint taken), rest)
  | flaw {bad rest : List UInt8} (isFlaw : Flaw bad rest) : Reads (bad ++ rest) (replacement, rest)

/-- Reading the bytes that are due completes the sequence or stops at a flaw. -/
theorem decodeTail_reads {front : List UInt8} (nonempty : front ≠ []) {due : Nat}
    {low high : UInt8} (owes : Owes front due low high) (range : low ≤ high)
    (bytes : List UInt8) :
    Reads (front ++ bytes) (decodeTail due (codePoint front) low high bytes) := by
  -- The bits that are carried along are always those of the bytes taken so far.
  generalize known : codePoint front = bits
  fun_induction decodeTail due bits low high bytes generalizing front with
  | case1 bits low high rest =>
    have isSequence := (owes []).mpr .done
    rw [List.append_nil] at isSequence
    rw [← known]
    exact .sequence isSequence
  | case2 bits low high due =>
    exact .flaw (.cut nonempty (owes.begins range) owes.unfinished fun byte none => by cases none)
  | case3 bits low high due byte rest inRange ih =>
    have within := Bool.and_eq_true_iff.mp inRange
    simp only [decide_eq_true_eq] at within
    have further := ih (List.append_ne_nil_of_left_ne_nil nonempty [byte]) (owes.step within)
      (by decide) (by rw [codePoint_concat nonempty, known]; rfl)
    rwa [List.append_assoc, List.singleton_append] at further
  | case4 bits low high due byte rest outside =>
    refine .flaw (.cut nonempty (owes.begins range) owes.unfinished fun other isNext => ?_)
    cases isNext
    refine owes.ends fun within => outside ?_
    simpa only [Bool.and_eq_true, decide_eq_true_eq] using within

section FirstByte

variable {a : UInt8}

theorem owes_two (least : 0xC2 ≤ a) (most : a ≤ 0xDF) : Owes [a] 1 0x80 0xBF := by
  intro rest
  constructor
  · intro isSequence
    cases isSequence with
    | one first => grind
    | two _ second => exact .next second .done
    | three first => grind
    | four first => grind
  · intro completes
    cases completes with
    | next inRange completes =>
      cases completes
      exact .two ⟨least, most⟩ inRange

theorem owes_three (least : 0xE0 ≤ a) (most : a ≤ 0xEF) :
    Owes [a] 2 (if a = 0xE0 then 0xA0 else 0x80) (if a = 0xED then 0x9F else 0xBF) := by
  intro rest
  constructor
  · intro isSequence
    cases isSequence with
    | one first => grind
    | two first => grind
    | three _ second third shortest noSurrogate =>
      unfold IsTail at second
      exact .next ⟨by grind, by grind⟩ (.next third .done)
    | four first => grind
  · intro completes
    cases completes with
    | next inRange completes =>
      cases completes with
      | next third completes =>
        cases completes
        exact .three ⟨least, most⟩ ⟨by grind, by grind⟩ third (by grind) (by grind)

theorem owes_four (least : 0xF0 ≤ a) (most : a ≤ 0xF4) :
    Owes [a] 3 (if a = 0xF0 then 0x90 else 0x80) (if a = 0xF4 then 0x8F else 0xBF) := by
  intro rest
  constructor
  · intro isSequence
    cases isSequence with
    | one first => grind
    | two first => grind
    | three first => grind
    | four _ second third fourth shortest inRange =>
      unfold IsTail at second
      exact .next ⟨by grind, by grind⟩ (.next third (.next fourth .done))
  · intro completes
    cases completes with
    | next inRange completes =>
      cases completes with
      | next third completes =>
        cases completes with
        | next fourth completes =>
          cases completes
          exact .four ⟨least, most⟩ ⟨by grind, by grind⟩ third fourth (by grind) (by grind)

private theorem begins_single_iff : Begins [a] ↔ a ≤ 0x7F ∨ 0xC2 ≤ a ∧ a ≤ 0xF4 := by
  constructor
  · rintro ⟨missing, isSequence⟩
    cases isSequence with
    | one first => exact .inl first
    | two first => grind
    | three first => grind
    | four first => grind
  · rintro (first | ⟨least, most⟩)
    · exact ⟨[], .one first⟩
    by_cases two : a ≤ 0xDF
    · exact (owes_two least two).begins (by decide)
    by_cases three : a ≤ 0xEF
    · exact (owes_three (by grind) three).begins (by grind)
    · exact (owes_four (by grind) most).begins (by grind)

theorem decodeFirst_reads (a : UInt8) (bytes : List UInt8) :
    Reads (a :: bytes) (decodeFirst a bytes) := by
  have followed {due : Nat} {low high : UInt8} (owes : Owes [a] due low high) (range : low ≤ high) :
      Reads (a :: bytes) (decodeTail due (leadBits a) low high bytes) :=
    decodeTail_reads (List.cons_ne_nil a []) owes range bytes
  have alone (beginsNone : ¬ (a ≤ 0x7F ∨ 0xC2 ≤ a ∧ a ≤ 0xF4)) :
      Reads (a :: bytes) (replacement, bytes) :=
    @Reads.flaw [a] bytes (.alone fun begins => beginsNone (begins_single_iff.mp begins))
  unfold decodeFirst
  split
  next one =>
    have bits : codePoint [a] = a.toNat := if_pos (by grind)
    rw [← bits]
    exact @Reads.sequence [a] bytes (.one (by grind))
  split
  next => exact alone (by grind)
  split
  next two =>
    have bits : leadBits a = a.toNat - 0xC0 := by
      rw [leadBits, if_neg (by grind), if_pos (by grind)]
    rw [← bits]
    exact followed (owes_two (by grind) (by grind)) (by decide)
  split
  next three =>
    have bits : leadBits a = a.toNat - 0xE0 := by
      rw [leadBits, if_neg (by grind), if_neg (by grind), if_pos (by grind)]
    rw [← bits]
    exact followed (owes_three (by grind) (by grind)) (by grind)
  split
  next four =>
    have bits : leadBits a = a.toNat - 0xF0 := by
      rw [leadBits, if_neg (by grind), if_neg (by grind), if_neg (by grind)]
    rw [← bits]
    exact followed (owes_four (by grind) (by grind)) (by grind)
  next => exact alone (by grind)

end FirstByte

/-- Bytes are read as what they decode to. -/
theorem decodes_decodeChars (bytes : List UInt8) : Decodes bytes (decodeChars bytes) := by
  fun_induction decodeChars bytes with
  | case1 => exact .nil
  | case2 a bytes ih =>
    have reads := decodeFirst_reads a bytes
    generalize decodeFirst a bytes = read at reads ih ⊢
    generalize a :: bytes = input at reads ⊢
    cases reads with
    | @sequence taken rest isSequence =>
      conv => arg 1; rw [← encodeChar_codePoint isSequence]
      exact .char _ ih
    | flaw isFlaw => exact .flaw isFlaw ih

/-- Bytes decode to one text only. -/
theorem Decodes.unique {bytes : List UInt8} {text other : List Char} (first : Decodes bytes text)
    (second : Decodes bytes other) : text = other := by
  induction first generalizing other with
  | nil =>
    generalize nothing : ([] : List UInt8) = bytes at second
    cases second with
    | nil => rfl
    | char c =>
      have absent := (List.append_eq_nil_iff.mp nothing.symm).1
      exact absurd absent (isSequence_encodeChar c).ne_nil
    | flaw isFlaw => exact absurd (List.append_eq_nil_iff.mp nothing.symm).1 isFlaw.ne_nil
  | @char rest text c _ ih =>
    generalize same : String.utf8EncodeChar c ++ rest = bytes at second
    cases second with
    | nil =>
      have absent := (List.append_eq_nil_iff.mp same).1
      exact absurd absent (isSequence_encodeChar c).ne_nil
    | char d decodes =>
      obtain ⟨sameChar, rfl⟩ := (isSequence_encodeChar c).unique (isSequence_encodeChar d) same
      rw [encodeChar_injective sameChar, ih decodes]
    | flaw isFlaw => exact absurd same.symm (isFlaw.not_sequence (isSequence_encodeChar c))
  | @flaw bad rest text isFlaw _ ih =>
    generalize same : bad ++ rest = bytes at second
    cases second with
    | nil => exact absurd (List.append_eq_nil_iff.mp same).1 isFlaw.ne_nil
    | char d => exact absurd same (isFlaw.not_sequence (isSequence_encodeChar d))
    | flaw isOther decodes =>
      obtain ⟨_, rfl⟩ := isFlaw.unique isOther same
      rw [ih decodes]

theorem Decodes.behind {rest : List UInt8} {text : List Char} (front : List Char)
    (decodes : Decodes rest text) :
    Decodes (front.flatMap String.utf8EncodeChar ++ rest) (front ++ text) := by
  induction front with
  | nil => exact decodes
  | cons c front ih =>
    rw [List.flatMap_cons, List.append_assoc]
    exact .char c ih

/-- A text is read back from its own bytes. -/
theorem decode_encode (text : String) : decode (encode text) = text := by
  have own := Decodes.behind text.toList .nil
  rw [List.append_nil, List.append_nil] at own
  rw [decode, encode, (decodes_decodeChars _).unique own, String.ofList_toList]

/-- A flaw behind a text is read as a replacement, and reading goes on behind it. -/
theorem decodeChars_flaw (front : String) {bad rest : List UInt8} (isFlaw : Flaw bad rest) :
    decodeChars (encode front ++ (bad ++ rest)) =
      front.toList ++ replacement :: decodeChars rest :=
  (decodes_decodeChars _).unique
    (Decodes.behind front.toList (.flaw isFlaw (decodes_decodeChars rest)))

/-- Bytes that have a flaw somewhere, behind a text that may be empty. -/
inductive Flawed : List UInt8 → Prop
  | behind (front : String) {bad rest : List UInt8} (isFlaw : Flaw bad rest) :
      Flawed (encode front ++ (bad ++ rest))

theorem Flawed.replaced {bytes : List UInt8} (flawed : Flawed bytes) :
    replacement ∈ (decode bytes).toList := by
  obtain ⟨front, isFlaw⟩ := flawed
  rw [decode, String.toList_ofList, decodeChars_flaw front isFlaw]
  exact List.mem_append_right _ (List.mem_cons_self ..)

theorem Decodes.encode_or_flawed {bytes : List UInt8} {text : List Char}
    (decodes : Decodes bytes text) : (∃ whole, encode whole = bytes) ∨ Flawed bytes := by
  induction decodes with
  | nil => exact .inl ⟨"", rfl⟩
  | char c _ ih =>
    have front (whole : String) : encode (String.singleton c ++ whole) =
        String.utf8EncodeChar c ++ encode whole := by
      rw [encode_append]
      simp [encode]
    rcases ih with ⟨whole, rfl⟩ | ⟨whole, isFlaw⟩
    · exact .inl ⟨_, front whole⟩
    · rw [← List.append_assoc, ← front]
      exact .inr (.behind _ isFlaw)
  | flaw isFlaw => exact .inr (.behind "" isFlaw)

/-- The bytes of a text have no flaw, wherever a sequence may end. -/
private theorem flatMap_ne_of_flaw (text front : List Char) {bad rest : List UInt8}
    (isFlaw : Flaw bad rest) :
    text.flatMap String.utf8EncodeChar ≠
      front.flatMap String.utf8EncodeChar ++ (bad ++ rest) := by
  intro same
  induction front generalizing text with
  | nil =>
    cases text with
    | nil =>
      have none_left : bad ++ rest = [] := same.symm
      exact isFlaw.ne_nil (List.append_eq_nil_iff.mp none_left).1
    | cons c text => exact isFlaw.not_sequence (isSequence_encodeChar c) same.symm
  | cons d front ih =>
    rw [List.flatMap_cons, List.append_assoc] at same
    cases text with
    | nil =>
      have absent := (List.append_eq_nil_iff.mp same.symm).1
      exact (isSequence_encodeChar d).ne_nil absent
    | cons c text =>
      obtain ⟨_, sameRest⟩ := (isSequence_encodeChar c).unique (isSequence_encodeChar d) same
      exact ih text sameRest

/-- Bytes have a flaw exactly if they encode no text. -/
theorem flawed_iff {bytes : List UInt8} : Flawed bytes ↔ ¬ ∃ text, encode text = bytes := by
  constructor
  · rintro ⟨front, isFlaw⟩ ⟨text, same⟩
    exact flatMap_ne_of_flaw text.toList front.toList isFlaw same
  · intro noText
    exact (decodes_decodeChars bytes).encode_or_flawed.resolve_left noText

/-- A byte that no text has is a flaw wherever it stands. -/
theorem flawed_of_unused {bytes : List UInt8} {byte : UInt8} (within : byte ∈ bytes)
    (unused : byte = 0xC0 ∨ byte = 0xC1 ∨ 0xF5 ≤ byte) : Flawed bytes := by
  rw [flawed_iff]
  rintro ⟨text, rfl⟩
  obtain ⟨c, _, inSequence⟩ := List.mem_flatMap.mp within
  have used := (isSequence_encodeChar c).used inSequence
  grind

end Decoding

end Roshambo.Text
