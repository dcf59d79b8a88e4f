/-! # Text as bytes

`encode` writes a text in UTF-8. `decode` reads any bytes at all: a well-formed sequence gives its
character, and each maximal beginning of a sequence that goes no further gives one replacement
character, after which reading resumes at the first byte that did not fit. A byte that can begin no
sequence is replaced on its own.
-/

namespace Roshambo.Text

def encode (text : String) : List UInt8 := text.toList.flatMap String.utf8EncodeChar

theorem encode_append (first second : String) :
    encode (first ++ second) = encode first ++ encode second := by
  simp [encode]

theorem toNat_ofNat_of_valid {n : Nat} (valid : n < 0xD800 ∨ 0xDFFF < n ∧ n < 0x110000) :
    (Char.ofNat n).toNat = n := by
  rw [Char.ofNat, dif_pos (show n.isValidChar from valid)]
  rfl

def replacement : Char := '\uFFFD'

/-- Read the continuation bytes still due for a sequence whose bits so far are `bits`; the next one
lies between `low` and `high`. -/
def decodeTail : (due bits : Nat) → (low high : UInt8) → List UInt8 → Char × List UInt8
  | 0, bits, _, _, rest => (Char.ofNat bits, rest)
  | _ + 1, _, _, _, [] => (replacement, [])
  | due + 1, bits, low, high, byte :: rest =>
    if low ≤ byte && byte ≤ high then
      decodeTail due (bits * 64 + byte.toNat % 64) 0x80 0xBF rest
    else (replacement, byte :: rest)

/-- Read one character or one replaced stretch. The narrower second bytes leave out overlong forms,
surrogates and what lies beyond the last code point. -/
def decodeFirst (byte : UInt8) (rest : List UInt8) : Char × List UInt8 :=
  if byte < 0x80 then (Char.ofNat byte.toNat, rest)
  else if byte < 0xC2 then (replacement, rest)
  else if byte < 0xE0 then decodeTail 1 (byte.toNat - 0xC0) 0x80 0xBF rest
  else if byte < 0xF0 then
    decodeTail 2 (byte.toNat - 0xE0) (if byte = 0xE0 then 0xA0 else 0x80)
      (if byte = 0xED then 0x9F else 0xBF) rest
  else if byte < 0xF5 then
    decodeTail 3 (byte.toNat - 0xF0) (if byte = 0xF0 then 0x90 else 0x80)
      (if byte = 0xF4 then 0x8F else 0xBF) rest
  else (replacement, rest)

theorem decodeTail_length_le (due bits : Nat) (low high : UInt8) (bytes : List UInt8) :
    (decodeTail due bits low high bytes).2.length ≤ bytes.length := by
  fun_induction decodeTail due bits low high bytes with
  | case1 | case2 | case4 => simp
  | case3 due bits low high byte rest _ ih => exact Nat.le_succ_of_le ih

private theorem decodeFirst_length_le (byte : UInt8) (rest : List UInt8) :
    (decodeFirst byte rest).2.length ≤ rest.length := by
  unfold decodeFirst
  split
  · exact Nat.le_refl _
  split
  · exact Nat.le_refl _
  split
  · exact decodeTail_length_le ..
  split
  · exact decodeTail_length_le ..
  split
  · exact decodeTail_length_le ..
  · exact Nat.le_refl _

/-- The characters of a byte sequence, with replacements where it is ill formed. -/
def decodeChars : List UInt8 → List Char
  | [] => []
  | byte :: rest => (decodeFirst byte rest).1 :: decodeChars (decodeFirst byte rest).2
termination_by bytes => bytes.length
decreasing_by exact Nat.lt_succ_of_le (decodeFirst_length_le byte rest)

/-- The text of a byte sequence, with replacements where it is ill formed. -/
def decode (bytes : List UInt8) : String := String.ofList (decodeChars bytes)

end Roshambo.Text
