/-! # Blank characters

A character is blank when it has the Unicode property White_Space. `trim` removes the blank
characters at both ends of a text and nothing else; `trim_of_sharp` says that what is left of a
text padded with blanks is the text itself as soon as its own ends are not blank.
-/

namespace Roshambo.Text

/-- The code points with the property White_Space, as closed ranges in ascending order. -/
def blankRanges : List (Nat × Nat) :=
  [(0x09, 0x0D), (0x20, 0x20), (0x85, 0x85), (0xA0, 0xA0), (0x1680, 0x1680), (0x2000, 0x200A),
    (0x2028, 0x2029), (0x202F, 0x202F), (0x205F, 0x205F), (0x3000, 0x3000)]

/-- Whether a character has the property White_Space. -/
def isBlank (c : Char) : Bool :=
  blankRanges.any fun (low, high) => low ≤ c.toNat && c.toNat ≤ high

def trimStart (text : List Char) : List Char := text.dropWhile isBlank

def trimEnd (text : List Char) : List Char := (text.reverse.dropWhile isBlank).reverse

/-- A text without the blank characters at either end. -/
def trim (text : List Char) : List Char := trimEnd (trimStart text)

example : isBlank '\u0085' = true ∧ isBlank '\u3000' = true := by decide

example : isBlank '\u001C' = false ∧ isBlank '\u200B' = false ∧ isBlank '\uFEFF' = false := by
  decide

private theorem dropWhile_blank_append {pad : List Char} (blank : ∀ c ∈ pad, isBlank c = true)
    (text : List Char) : (pad ++ text).dropWhile isBlank = text.dropWhile isBlank := by
  induction pad with
  | nil => rfl
  | cons c rest ih =>
    rw [List.cons_append, List.dropWhile_cons, if_pos (blank c (List.mem_cons_self ..))]
    exact ih fun d member => blank d (List.mem_cons_of_mem _ member)

theorem trimStart_append {pad : List Char} (blank : ∀ c ∈ pad, isBlank c = true)
    (text : List Char) : trimStart (pad ++ text) = trimStart text :=
  dropWhile_blank_append blank text

theorem trimEnd_append {pad : List Char} (blank : ∀ c ∈ pad, isBlank c = true)
    (text : List Char) : trimEnd (text ++ pad) = trimEnd text := by
  simp only [trimEnd, List.reverse_append]
  rw [dropWhile_blank_append]
  simpa using blank

/-- Blank padding around a single sharp character is removed without a trace. -/
theorem trim_of_sharp {front back : List Char} {c : Char}
    (front_blank : ∀ d ∈ front, isBlank d = true) (back_blank : ∀ d ∈ back, isBlank d = true)
    (sharp : isBlank c = false) : trim (front ++ c :: back) = [c] := by
  rw [trim, trimStart_append front_blank]
  have kept : trimStart (c :: back) = [c] ++ back := by simp [trimStart, sharp]
  rw [kept, trimEnd_append back_blank]
  simp [trimEnd, sharp]

end Roshambo.Text
