import Roshambo.Json.Mismatched
import Roshambo.Move

/-! # Named values in JSON

A value from a closed list of named ones has two spellings: its name as a string, or an object with
the name as its only key and null behind it. A name that is not in the list is refused as soon as
its string ends. On what to say of such an object whose key is no string, readers of JSON differ
between releases: `KeyRule.malformed` is the rule of the newer ones, `KeyRule.mismatched` that of
the older.
-/

namespace Roshambo.Json

/-- The values of a type that are written by name, in the order in which they are listed. -/
abbrev Variants (α : Type) := List (String × α)

def moveVariants : Variants Move := Move.all.map fun move => (move.name, move)

def outcomeVariants : Variants Outcome := Outcome.all.map fun outcome => (outcome.name, outcome)

section Named

variable {α : Type}

def Variants.named (variants : Variants α) (name : String) : Reader α :=
  match variants.lookup name with
  | some value => pure value
  | none => Reader.fail (.mismatch (.unknownVariant name (variants.map Prod.fst)))

def readName (variants : Variants α) : Reader α := do
  variants.named (String.ofList (← readText))

def readNull : Reader Unit := Reader.spaced fun input =>
  match input with
  | [] => .error .truncated
  | 'n' :: rest => expect ['u', 'l', 'l'] rest
  | input => .error (unexpected "unit" input)

/-- What is said of a key that is no string, where a name should be. -/
inductive KeyRule where
  | malformed
  | mismatched
deriving DecidableEq, Repr

/-- The problem with a text at whose front a key was expected. -/
def KeyRule.problem : KeyRule → List Char → Problem
  | malformed, _ => .malformed
  | mismatched, input => unexpected "variant identifier" input

def openKey (keys : KeyRule) : Reader Unit := Reader.spaced fun input =>
  match input with
  | [] => .error .truncated
  | '"' :: rest => .ok ((), rest)
  | input => .error (keys.problem input)

/-- Read a name with null behind it, in an object behind its opening bracket. -/
def readTagged (keys : KeyRule) (variants : Variants α) : Reader α := do
  openKey keys
  let value ← readName variants
  mark ':'
  readNull
  mark '\x7d'
  return value

/-- Read a named value in either spelling. -/
def readVariant (keys : KeyRule) (variants : Variants α) : Reader α := Reader.spaced fun input =>
  match input with
  | [] => .error .truncated
  | '"' :: rest => readName variants rest
  | '\x7b' :: rest => readTagged keys variants rest
  | _ => .error .malformed

private theorem shrinks_named (variants : Variants α) (name : String) :
    (variants.named name).Shrinks := by
  unfold Variants.named
  split
  · exact Reader.shrinks_pure _
  · exact Reader.shrinks_fail _

theorem consumes_readName (variants : Variants α) : (readName variants).Consumes :=
  consumes_readText.bind fun _ => shrinks_named variants _

private theorem consumes_readNull : readNull.Consumes := by
  apply Reader.Consumes.spaced
  intro input rest value read
  simp only at read
  split at read
  · cases read
  · exact Nat.lt_succ_of_le (shrinks_expect _ read)
  · cases read

private theorem consumes_openKey (keys : KeyRule) : (openKey keys).Consumes := by
  apply Reader.Consumes.spaced
  intro input rest value read
  simp only at read
  split at read
  · cases read
  · cases read
    exact Nat.lt_succ_self _
  · cases read

private theorem consumes_readTagged (keys : KeyRule) (variants : Variants α) :
    (readTagged keys variants).Consumes :=
  (consumes_openKey keys).bind fun _ =>
    (consumes_readName variants).shrinks.bind fun _ =>
      (consumes_mark ':').shrinks.bind fun _ =>
        consumes_readNull.shrinks.bind fun _ =>
          (consumes_mark '\x7d').shrinks.bind fun _ => Reader.shrinks_pure _

theorem consumes_readVariant (keys : KeyRule) (variants : Variants α) :
    (readVariant keys variants).Consumes := by
  apply Reader.Consumes.spaced
  intro input rest value read
  simp only at read
  split at read
  · cases read
  · exact Nat.lt_succ_of_lt (consumes_readName variants read)
  · exact Nat.lt_succ_of_lt (consumes_readTagged keys variants read)
  · cases read

end Named

end Roshambo.Json
