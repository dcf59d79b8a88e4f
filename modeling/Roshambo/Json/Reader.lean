import Roshambo.Json.Problem

/-! # Readers

A reader takes a value from the front of a text and gives back what is left of it, or says what is
wrong. Readers are put in sequence: the first problem met from left to right is the answer.
`Consumes` marks the readers that leave less than they were given, on which repetition can rely.
-/

namespace Roshambo.Json

/-- What takes a value from the front of a text. -/
def Reader (α : Type) : Type := List Char → Except Problem (α × List Char)

namespace Reader

variable {α β : Type}

/-- The second reader goes on where the first one stopped. -/
instance : Monad Reader where
  pure value input := .ok (value, input)
  bind first next input :=
    match first input with
    | .ok (value, rest) => next value rest
    | .error problem => .error problem

theorem pure_apply (value : α) (input : List Char) :
    (pure value : Reader α) input = .ok (value, input) := rfl

theorem bind_apply (first : Reader α) (next : α → Reader β) (input : List Char) :
    (first >>= next) input =
      match first input with
      | .ok (value, rest) => next value rest
      | .error problem => .error problem := rfl

theorem bind_eq_ok {first : Reader α} {next : α → Reader β} {input rest : List Char} {value : β}
    (read : (first >>= next) input = .ok (value, rest)) :
    ∃ middle between, first input = .ok (middle, between) ∧
      next middle between = .ok (value, rest) := by
  rw [bind_apply] at read
  split at read
  next middle between found => exact ⟨middle, between, found, read⟩
  next => cases read

theorem bind_of_ok {first : Reader α} {input between : List Char} {middle : α}
    (found : first input = .ok (middle, between)) (next : α → Reader β) :
    (first >>= next) input = next middle between := by
  rw [bind_apply, found]

theorem bind_of_error {first : Reader α} {input : List Char} {problem : Problem}
    (failed : first input = .error problem) (next : α → Reader β) :
    (first >>= next) input = .error problem := by
  rw [bind_apply, failed]

def fail (problem : Problem) : Reader α := fun _ => .error problem

/-- Whether a reader leaves less than it was given whenever it succeeds. -/
def Consumes (reader : Reader α) : Prop :=
  ∀ ⦃input rest value⦄, reader input = .ok (value, rest) → rest.length < input.length

/-- Whether a reader never leaves more than it was given. -/
def Shrinks (reader : Reader α) : Prop :=
  ∀ ⦃input rest value⦄, reader input = .ok (value, rest) → rest.length ≤ input.length

theorem Consumes.shrinks {reader : Reader α} (consumes : reader.Consumes) : reader.Shrinks :=
  fun _ _ _ read => Nat.le_of_lt (consumes read)

theorem shrinks_pure (value : α) : (pure value : Reader α).Shrinks := by
  intro input rest _ read
  cases read
  exact Nat.le_refl _

theorem shrinks_fail (problem : Problem) : (fail problem : Reader α).Shrinks := by
  intro input rest value read
  cases read

theorem Consumes.bind {first : Reader α} {next : α → Reader β} (consumes : first.Consumes)
    (shrinks : ∀ value, (next value).Shrinks) : (first >>= next).Consumes := by
  intro input rest value read
  obtain ⟨middle, between, found, left⟩ := bind_eq_ok read
  exact Nat.lt_of_le_of_lt (shrinks middle left) (consumes found)

theorem Shrinks.bind {first : Reader α} {next : α → Reader β} (head : first.Shrinks)
    (shrinks : ∀ value, (next value).Shrinks) : (first >>= next).Shrinks := by
  intro input rest value read
  obtain ⟨middle, between, found, left⟩ := bind_eq_ok read
  exact Nat.le_trans (shrinks middle left) (head found)

end Reader

/-- The characters that may stand between the parts of a text. -/
def isSpace (c : Char) : Bool := c == ' ' || c == '\t' || c == '\n' || c == '\r'

def skipSpace (input : List Char) : List Char := input.dropWhile isSpace

theorem skipSpace_length_le (input : List Char) : (skipSpace input).length ≤ input.length :=
  (List.dropWhile_sublist isSpace).length_le

namespace Reader

variable {α : Type}

def spaced (reader : Reader α) : Reader α := fun input => reader (skipSpace input)

theorem Consumes.spaced {reader : Reader α} (consumes : reader.Consumes) :
    (spaced reader).Consumes :=
  fun input _ _ read => Nat.lt_of_lt_of_le (consumes read) (skipSpace_length_le input)

end Reader

def expect : List Char → Reader Unit
  | [], input => .ok ((), input)
  | _ :: _, [] => .error .truncated
  | c :: word, d :: rest => if c = d then expect word rest else .error .malformed

theorem shrinks_expect (word : List Char) : (expect word).Shrinks := by
  induction word with
  | nil =>
    intro input rest value read
    cases read
    exact Nat.le_refl _
  | cons c word ih =>
    intro input rest value read
    cases input with
    | nil => cases read
    | cons d input =>
      rw [expect] at read
      split at read
      · exact Nat.le_succ_of_le (ih read)
      · cases read

def mark (c : Char) : Reader Unit := Reader.spaced fun input =>
  match input with
  | [] => .error .truncated
  | d :: rest => if d = c then .ok ((), rest) else .error .malformed

theorem consumes_mark (c : Char) : (mark c).Consumes := by
  apply Reader.Consumes.spaced
  intro input rest value read
  cases input with
  | nil => cases read
  | cons d input =>
    simp only at read
    split at read
    · cases read
      exact Nat.lt_succ_self _
    · cases read

end Roshambo.Json
