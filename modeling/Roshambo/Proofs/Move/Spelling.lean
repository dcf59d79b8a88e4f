import Mathlib.Data.Bool.AllAny
import Mathlib.Data.List.Basic
import Mathlib.Data.List.Forall2
import Mathlib.Data.List.TakeWhile
import Roshambo.Move.Code

/-! # The texts that pick a move

A text picks a move exactly if it spells it: the code of the move or the capital of the code, and
white space on either side. Any other text is handed back as it was typed (`ofTyped_spelled`). The
last part of that statement looks at the same reading from another side. A text may be trimmed,
written in lowercase as a whole, measured in bytes and compared with the codes one after the other;
since lowercase is harmless outside ASCII (`LowersTo`), this finds the same move.
-/

namespace Roshambo

namespace Text

/-- The characters with the property White_Space, one by one. -/
def whiteSpace : List Char :=
  ['\t', '\n', '\x0B', '\x0C', '\r', ' ', '\u0085', '\u00A0', '\u1680', '\u2000', '\u2001',
    '\u2002', '\u2003', '\u2004', '\u2005', '\u2006', '\u2007', '\u2008', '\u2009', '\u200A',
    '\u2028', '\u2029', '\u202F', '\u205F', '\u3000']

theorem isBlank_iff (c : Char) : isBlank c = true ↔ c ∈ whiteSpace := by
  have byCode : c ∈ whiteSpace ↔ c.toNat ∈ whiteSpace.map Char.toNat :=
    (List.mem_map_of_injective fun _ _ => Char.toNat_inj.mp).symm
  have codes : whiteSpace.map Char.toNat = [9, 10, 11, 12, 13, 32, 133, 160, 5760, 8192, 8193, 8194,
    8195, 8196, 8197, 8198, 8199, 8200, 8201, 8202, 8232, 8233, 8239, 8287, 12288] := by decide
  rw [byCode, codes]
  simp only [isBlank, blankRanges, List.any_cons, List.any_nil, List.mem_cons, List.not_mem_nil,
    Bool.or_eq_true, Bool.and_eq_true, decide_eq_true_eq, Bool.false_eq_true, or_false]
  constructor
  · intro within
    omega
  · intro listed
    omega

private theorem exists_trim (text : List Char) :
    ∃ front back, text = front ++ (trim text ++ back) ∧ (∀ c ∈ front, isBlank c = true) ∧
      ∀ c ∈ back, isBlank c = true := by
  refine ⟨text.takeWhile isBlank, ((trimStart text).reverse.takeWhile isBlank).reverse, ?_, ?_, ?_⟩
  · have behind : trim text ++ ((trimStart text).reverse.takeWhile isBlank).reverse =
        trimStart text := by
      rw [trim, trimEnd, ← List.reverse_append, List.takeWhile_append_dropWhile,
        List.reverse_reverse]
    rw [behind]
    exact List.takeWhile_append_dropWhile.symm
  · exact fun c within => List.mem_takeWhile_imp within
  · exact fun c within => List.mem_takeWhile_imp (List.mem_reverse.mp within)

end Text

namespace Move

/-- A text that spells a move: the code or its capital, with white space on either side. -/
inductive Spells (move : Move) : List Char → Prop
  | padded {front back : List Char} {letter : Char}
      (before : ∀ c ∈ front, c ∈ Text.whiteSpace) (behind : ∀ c ∈ back, c ∈ Text.whiteSpace)
      (isLetter : letter ∈ [move.code, move.code.toUpper]) : Spells move (front ++ letter :: back)

theorem toNat_toLower (c : Char) :
    c.toLower.toNat = if 65 ≤ c.toNat ∧ c.toNat ≤ 90 then c.toNat + 32 else c.toNat := by
  unfold Char.toLower
  have capital : (c.val ≥ 'A'.val ∧ c.val ≤ 'Z'.val) ↔ 65 ≤ c.toNat ∧ c.toNat ≤ 90 := by
    simp only [ge_iff_le, UInt32.le_iff_toNat_le]
    exact Iff.rfl
  split
  next isCapital =>
    have bounds := capital.mp isCapital
    rw [if_pos bounds]
    change (c.val + 32).toNat = c.val.toNat + 32
    rw [UInt32.toNat_add, Nat.mod_eq_of_lt]
    · rfl
    · change c.val.toNat + 32 < 2 ^ 32
      have small : c.val.toNat ≤ 90 := bounds.2
      omega
  next other => rw [if_neg (fun bounds => other (capital.mpr bounds))]

/-- A move answers to its code and to the capital of it. -/
theorem answersTo_iff (move : Move) (c : Char) :
    move.answersTo c = true ↔ c ∈ [move.code, move.code.toUpper] := by
  have lower := toNat_toLower c
  have byCode (d : Char) : c = d ↔ c.toNat = d.toNat := Char.toNat_inj.symm
  rw [answersTo, beq_iff_eq, ← Char.toNat_inj, lower]
  simp only [List.mem_cons, List.not_mem_nil, or_false, byCode]
  cases move with
  | rock =>
    change _ = 97 ↔ c.toNat = 97 ∨ c.toNat = 65
    split <;> omega
  | paper =>
    change _ = 98 ↔ c.toNat = 98 ∨ c.toNat = 66
    split <;> omega
  | scissors =>
    change _ = 99 ↔ c.toNat = 99 ∨ c.toNat = 67
    split <;> omega

theorem find?_answersTo_iff (move : Move) (c : Char) :
    (all.find? fun other => other.answersTo c) = some move ↔ move.answersTo c = true := by
  constructor
  · exact List.find?_some
  · intro answers
    have same : c.toLower = move.code := beq_iff_eq.mp answers
    simp only [answersTo, same]
    cases move <;> rfl

theorem ofCode?_eq_some_iff {move : Move} {text : List Char} :
    ofCode? text = some move ↔ ∃ c, text = [c] ∧ move.answersTo c = true := by
  constructor
  · intro picked
    unfold ofCode? at picked
    split at picked
    next c => exact ⟨c, rfl, (find?_answersTo_iff move c).mp picked⟩
    next => cases picked
  · rintro ⟨c, rfl, answers⟩
    exact (find?_answersTo_iff move c).mpr answers

private theorem not_isBlank_of_answersTo {move : Move} {c : Char}
    (answers : move.answersTo c = true) :
    Text.isBlank c = false := by
  have isLetter := (answersTo_iff move c).mp answers
  have every : ∀ letter ∈ [move.code, move.code.toUpper], Text.isBlank letter = false := by
    cases move <;> exact List.all_iff_forall_prop.mp (by decide)
  exact every c isLetter

theorem toNat_lt_of_answersTo {move : Move} {c : Char} (answers : move.answersTo c = true) :
    c.toNat < 0x80 := by
  have isLetter := (answersTo_iff move c).mp answers
  have every : ∀ letter ∈ [move.code, move.code.toUpper], letter.toNat < 0x80 := by
    cases move <;> exact List.all_iff_forall_prop.mp (by decide)
  exact every c isLetter

theorem ofTyped_eq_ok_iff {typed : String} {move : Move} :
    ofTyped typed = .ok move ↔ ofCode? (Text.trim typed.toList) = some move := by
  unfold ofTyped
  cases ofCode? (Text.trim typed.toList) with
  | none => simp only [reduceCtorEq]
  | some picked => simp only [Except.ok.injEq, Option.some.injEq]

theorem ofTyped_eq_error_iff {typed : String} :
    ofTyped typed = .error ⟨typed⟩ ↔ ∀ move, ofTyped typed ≠ .ok move := by
  unfold ofTyped
  cases ofCode? (Text.trim typed.toList) with
  | none => exact iff_of_true rfl fun _ picks => nomatch picks
  | some picked => exact iff_of_false (fun failed => nomatch failed) fun never => never picked rfl

/-- The texts that pick a move are those that spell it. -/
theorem ofTyped_ok_iff_spells {typed : String} {move : Move} :
    ofTyped typed = .ok move ↔ move.Spells typed.toList := by
  rw [ofTyped_eq_ok_iff, ofCode?_eq_some_iff]
  constructor
  · rintro ⟨c, single, answers⟩
    obtain ⟨front, back, whole, before, behind⟩ := Text.exists_trim typed.toList
    rw [single] at whole
    rw [whole]
    refine .padded (fun d within => ?_) (fun d within => ?_) ((answersTo_iff move c).mp answers)
    · exact (Text.isBlank_iff d).mp (before d within)
    · exact (Text.isBlank_iff d).mp (behind d within)
  · generalize typed.toList = text
    rintro ⟨before, behind, isLetter⟩
    next front back letter =>
      have answers := (answersTo_iff move letter).mpr isLetter
      refine ⟨letter, ?_, answers⟩
      exact Text.trim_of_sharp (fun d within => (Text.isBlank_iff d).mpr (before d within))
        (fun d within => (Text.isBlank_iff d).mpr (behind d within))
        (not_isBlank_of_answersTo answers)

/-- A text with a character that is neither white space nor a letter of a move picks none. -/
theorem ofTyped_of_foreign {typed : String} {c : Char} (within : c ∈ typed.toList)
    (visible : c ∉ Text.whiteSpace) (foreign : ∀ move : Move, c ∉ [move.code, move.code.toUpper]) :
    ofTyped typed = .error ⟨typed⟩ := by
  rw [ofTyped_eq_error_iff]
  intro move picks
  have spells := ofTyped_ok_iff_spells.mp picks
  generalize typed.toList = text at within spells
  obtain ⟨before, behind, isLetter⟩ := spells
  rcases List.mem_append.mp within with inFront | inRest
  · exact visible (before c inFront)
  rcases List.mem_cons.mp inRest with rfl | inBack
  · exact foreign move isLetter
  · exact visible (behind c inBack)

/-- What one character may become in lowercase. It does not vanish; within ASCII only the capitals
change; and no character outside ASCII becomes a code, all by itself. -/
structure LowersTo (c : Char) (piece : List Char) : Prop where
  remains : piece ≠ []
  ascii : c.toNat < 0x80 → piece = [c.toLower]
  foreign : 0x80 ≤ c.toNat → ∀ move : Move, piece ≠ [move.code]

/-- A way to write texts in lowercase, character by character, though perhaps with regard to the
neighbours of each. -/
def IsLowering (lower : List Char → List Char) : Prop :=
  ∀ text, ∃ pieces, List.Forall₂ LowersTo text pieces ∧ lower text = pieces.flatten

def byteSize (text : List Char) : Nat := (text.flatMap String.utf8EncodeChar).length

/-- The first move whose code is the beginning of a text in lowercase, if that is a single byte. -/
def searched? (lower : List Char → List Char) (typed : String) : Option Move :=
  let code := lower (Text.trim typed.toList)
  all.find? fun move => byteSize code == 1 && code.head? == some move.code

private theorem length_le_byteSize (text : List Char) : text.length ≤ byteSize text := by
  induction text with
  | nil => exact Nat.le_refl _
  | cons c text ih =>
    have positive := c.utf8Size_pos
    simp only [byteSize, List.flatMap_cons, List.length_append, List.length_cons,
      String.length_utf8EncodeChar] at ih ⊢
    omega

private theorem length_le_flatten {text : List Char} {pieces : List (List Char)}
    (lowered : List.Forall₂ LowersTo text pieces) : text.length ≤ pieces.flatten.length := by
  induction lowered with
  | nil => exact Nat.le_refl _
  | cons head _ ih =>
    have positive := List.length_pos_iff.mpr head.remains
    rw [List.flatten_cons, List.length_append, List.length_cons]
    omega

private theorem find?_code_single {c : Char} (ascii : c.toNat < 0x80) :
    (all.find? fun move => byteSize [c.toLower] == 1 && [c.toLower].head? == some move.code) =
      ofCode? [c] := by
  have small : c.toLower.toNat ≤ 127 := by
    rw [toNat_toLower]
    split <;> omega
  have single : byteSize [c.toLower] = 1 := by
    have size := Char.utf8Size_eq_one_iff.mpr (UInt32.le_iff_toNat_le.mpr small)
    rw [byteSize, List.flatMap_singleton, String.length_utf8EncodeChar, size]
  rw [single]
  rfl

/-- A text of which no single byte is left in lowercase is not found. -/
theorem find?_code_none {code : List Char} (never : ∀ move : Move, code ≠ [move.code]) :
    (all.find? fun move => byteSize code == 1 && code.head? == some move.code) = none := by
  rw [List.find?_eq_none]
  intro move _ found
  obtain ⟨single, first⟩ := Bool.and_eq_true_iff.mp found
  have short := length_le_byteSize code
  rw [beq_iff_eq.mp single] at short
  match code, short, beq_iff_eq.mp first with
  | [c], _, first => exact never move (congrArg (fun d => [d]) (Option.some.inj first))

/-- The search in lowercase finds the move that a text picks. -/
theorem searched?_eq_ofCode? {lower : List Char → List Char} (lowering : IsLowering lower)
    (typed : String) : searched? lower typed = ofCode? (Text.trim typed.toList) := by
  unfold searched?
  obtain ⟨pieces, lowered, whole⟩ := lowering (Text.trim typed.toList)
  have kept := length_le_flatten lowered
  rw [whole]
  generalize Text.trim typed.toList = text at lowered kept ⊢
  match text, lowered with
  | [], .nil => exact find?_code_none fun move same => by cases same
  | [c], .cons (b := piece) head .nil =>
    rw [List.flatten_cons, List.flatten_nil, List.append_nil]
    by_cases ascii : c.toNat < 0x80
    · rw [head.ascii ascii]
      exact find?_code_single ascii
    · have outside : 0x80 ≤ c.toNat := Nat.le_of_not_lt ascii
      have unpicked : ofCode? [c] = none := by
        refine Option.eq_none_iff_forall_ne_some.mpr fun move picked => ?_
        obtain ⟨d, same, answers⟩ := ofCode?_eq_some_iff.mp picked
        cases same
        have small := toNat_lt_of_answersTo answers
        omega
      rw [find?_code_none (head.foreign outside), unpicked]
  | c :: d :: text, lowered =>
    refine find?_code_none fun move same => ?_
    rw [same] at kept
    simp only [List.length_cons, List.length_nil] at kept
    omega

/-- A text picks a move exactly if it spells it; any other is handed back as typed. A search for the
trimmed lowercase text finds the same move. -/
theorem ofTyped_spelled (typed : String) :
    (∀ move, ofTyped typed = .ok move ↔ move.Spells typed.toList) ∧
      (ofTyped typed = .error ⟨typed⟩ ↔ ∀ move : Move, ¬ move.Spells typed.toList) ∧
      ∀ lower, IsLowering lower →
        ofTyped typed =
          match searched? lower typed with
          | some move => .ok move
          | none => .error ⟨typed⟩ := by
  refine ⟨fun move => ofTyped_ok_iff_spells, ?_, fun lower lowering => ?_⟩
  · rw [ofTyped_eq_error_iff]
    exact forall_congr' fun move => not_congr ofTyped_ok_iff_spells
  · rw [searched?_eq_ofCode? lowering]
    rfl

/-- A capital between two kinds of white space picks its move; a zero width space, the letter U+0130
and the Kelvin sign pick none. -/
theorem ofTyped_spelled_foreign :
    let lower : List Char → List Char := fun text => text.flatMap fun c =>
      if c = '\u0130' then ['i', '\u0307'] else if c = '\u212A' then ['k'] else [c.toLower]
    IsLowering lower ∧ ofTyped "\u3000B\u0085\n" = .ok .paper ∧
      ofTyped "a\u200B" = .error ⟨"a\u200B"⟩ ∧ ofTyped "\u0130" = .error ⟨"\u0130"⟩ ∧
      ofTyped "\u212A" = .error ⟨"\u212A"⟩ := by
  intro lower
  have lowering : IsLowering lower := by
    intro text
    refine ⟨_, ?_, List.flatMap_def⟩
    rw [List.forall₂_map_right_iff, List.forall₂_same]
    intro c _
    split
    next isLetter =>
      subst isLetter
      exact ⟨by decide, by decide, fun _ move => by cases move <;> decide⟩
    split
    next _ isSign =>
      subst isSign
      exact ⟨by decide, by decide, fun _ move => by cases move <;> decide⟩
    next =>
      refine ⟨List.cons_ne_nil _ _, fun _ => rfl, fun outside move same => ?_⟩
      have answers : move.answersTo c = true := beq_iff_eq.mpr (List.head_eq_of_cons_eq same)
      have small := toNat_lt_of_answersTo answers
      omega
  have spells : Spells .paper (['\u3000'] ++ 'B' :: ['\u0085', '\n']) :=
    .padded (List.all_iff_forall_prop.mp (by decide)) (List.all_iff_forall_prop.mp (by decide))
      (by decide)
  obtain ⟨picked, _, _⟩ := ofTyped_spelled "\u3000B\u0085\n"
  obtain ⟨_, _, padded⟩ := ofTyped_spelled "a\u200B"
  obtain ⟨_, _, longer⟩ := ofTyped_spelled "\u0130"
  obtain ⟨_, _, sign⟩ := ofTyped_spelled "\u212A"
  have unpadded : searched? lower "a\u200B" = none := by decide +kernel
  have unlonger : searched? lower "\u0130" = none := by decide +kernel
  have unsigned : searched? lower "\u212A" = none := by decide +kernel
  refine ⟨lowering, (picked .paper).mpr spells, ?_, ?_, ?_⟩
  · rw [padded lower lowering, unpadded]
  · rw [longer lower lowering, unlonger]
  · rw [sign lower lowering, unsigned]

end Move

end Roshambo
