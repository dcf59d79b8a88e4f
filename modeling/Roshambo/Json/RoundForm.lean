import Roshambo.Json.Skip
import Roshambo.Json.Variant
import Roshambo.Round

/-! # Rounds in JSON

A round is an object with its three fields under their keys, in any order and among other members,
or an array of the three values in order. Members are taken from left to right: a key met again is
refused before its value, a member with another key is passed over, and at the closing bracket the
first field that is still missing is reported. The outcome need not be the one that the moves
decide.
-/

namespace Roshambo.Json

/-- The fields of a round that have been read. -/
structure Slots where
  player : Option Move
  other : Option Move
  result : Option Outcome
deriving DecidableEq, Repr

namespace Slots

def empty : Slots := ⟨none, none, none⟩

def has (slots : Slots) : Round.Field → Bool
  | .player => slots.player.isSome
  | .other => slots.other.isSome
  | .result => slots.result.isSome

def missing (field : Round.Field) : Problem := .mismatch (.missingField field.key)

/-- The round of three fields, or the first of them that is missing. -/
def complete (slots : Slots) : Except Problem Round :=
  match slots.player with
  | none => .error (missing .player)
  | some player =>
    match slots.other with
    | none => .error (missing .other)
    | some other =>
      match slots.result with
      | none => .error (missing .result)
      | some result => .ok ⟨player, other, result⟩

end Slots

def readField (keys : KeyRule) (slots : Slots) : Round.Field → Reader Slots
  | .player => do return { slots with player := some (← readVariant keys moveVariants) }
  | .other => do return { slots with other := some (← readVariant keys moveVariants) }
  | .result => do return { slots with result := some (← readVariant keys outcomeVariants) }

def readMember (keys : KeyRule) (slots : Slots) (key : String) : Reader Slots :=
  match Round.Field.ofKey? key with
  | some field =>
    if slots.has field then Reader.fail (.mismatch (.duplicateField field.key))
    else do
      mark ':'
      readField keys slots field
  | none => do
    mark ':'
    skipValue
    return slots

/-- Read up to the opening quote of the next member, or the closing bracket; all members but the
first stand behind a comma. -/
def readAhead (first : Bool) : Reader Bool := Reader.spaced fun input =>
  match input with
  | [] => .error .truncated
  | '\x7d' :: rest => .ok (false, rest)
  | c :: rest =>
    if first then (do mark '"'; return true : Reader Bool) (c :: rest)
    else if c = ',' then (do mark '"'; return true : Reader Bool) rest
    else .error .malformed

def readNext (keys : KeyRule) (first : Bool) (slots : Slots) : Reader (Option Slots) := do
  let more ← readAhead first
  if more then do
    let key ← readText
    let slots ← readMember keys slots (String.ofList key)
    return some slots
  else return none

private theorem shrinks_readField (keys : KeyRule) (slots : Slots) (field : Round.Field) :
    (readField keys slots field).Shrinks := by
  cases field <;>
    exact (consumes_readVariant keys _).shrinks.bind fun _ => Reader.shrinks_pure _

private theorem shrinks_readMember (keys : KeyRule) (slots : Slots) (key : String) :
    (readMember keys slots key).Shrinks := by
  unfold readMember
  split
  · split
    · exact Reader.shrinks_fail _
    · exact (consumes_mark ':').shrinks.bind fun _ => shrinks_readField keys slots _
  · exact (consumes_mark ':').shrinks.bind fun _ =>
      shrinks_skipValue.bind fun _ => Reader.shrinks_pure _

private theorem consumes_readAhead (first : Bool) : (readAhead first).Consumes := by
  have quote : (do mark '"'; return true : Reader Bool).Consumes :=
    (consumes_mark '"').bind fun _ => Reader.shrinks_pure _
  apply Reader.Consumes.spaced
  intro input rest value read
  simp only at read
  split at read
  · cases read
  · cases read
    exact Nat.lt_succ_self _
  · split at read
    · exact quote read
    split at read
    · exact Nat.lt_succ_of_lt (quote read)
    · cases read

theorem consumes_readNext (keys : KeyRule) (first : Bool) (slots : Slots) :
    (readNext keys first slots).Consumes := by
  apply (consumes_readAhead first).bind
  intro more
  split
  · exact consumes_readText.shrinks.bind fun _ =>
      (shrinks_readMember keys slots _).bind fun _ => Reader.shrinks_pure _
  · exact Reader.shrinks_pure _

def readMembers (keys : KeyRule) (first : Bool) (slots : Slots) (input : List Char) :
    Except Problem (Round × List Char) :=
  match _ : readNext keys first slots input with
  | .error problem => .error problem
  | .ok (some slots, rest) => readMembers keys false slots rest
  | .ok (none, rest) => slots.complete.map fun round => (round, rest)
termination_by input.length
decreasing_by exact consumes_readNext _ _ _ ‹_›

/-- Read the element of an array behind a number of others, if the array goes on. -/
def readElement {α : Type} (count : Nat) (value : Reader α) : Reader α := Reader.spaced fun input =>
  match input with
  | [] => .error .truncated
  | ']' :: _ =>
    .error (.mismatch (.invalidLength count "struct RoundResult with 3 elements"))
  | c :: rest =>
    if count = 0 then value (c :: rest)
    else if c = ',' then value rest
    else .error .malformed

/-- Read the elements of an array behind its opening bracket. -/
def readElements (keys : KeyRule) : Reader Round := do
  let player ← readElement 0 (readVariant keys moveVariants)
  let other ← readElement 1 (readVariant keys moveVariants)
  let result ← readElement 2 (readVariant keys outcomeVariants)
  mark ']'
  return ⟨player, other, result⟩

def readRound (keys : KeyRule) : Reader Round := Reader.spaced fun input =>
  match input with
  | [] => .error .truncated
  | '[' :: rest => readElements keys rest
  | '\x7b' :: rest => readMembers keys true .empty rest
  | input => .error (unexpected "struct RoundResult" input)

/-- Read a whole text: a value, and nothing but space behind it. -/
def decode {α : Type} (reader : Reader α) (text : String) : Except Problem α :=
  match reader text.toList with
  | .ok (value, rest) => if skipSpace rest = [] then .ok value else .error .malformed
  | .error problem => .error problem

end Roshambo.Json

namespace Roshambo

section Decoding

variable (keys : Json.KeyRule)

/-- The move that a JSON text stands for, under a rule for keys. -/
def Move.ofJsonUnder (text : String) : Except Json.Problem Move :=
  Json.decode (Json.readVariant keys Json.moveVariants) text

/-- The outcome that a JSON text stands for, under a rule for keys. -/
def Outcome.ofJsonUnder (text : String) : Except Json.Problem Outcome :=
  Json.decode (Json.readVariant keys Json.outcomeVariants) text

/-- The round that a JSON text stands for, under a rule for keys. -/
def Round.ofJsonUnder (text : String) : Except Json.Problem Round :=
  Json.decode (Json.readRound keys) text

end Decoding

-- Texts are read as newer releases read them: a key that is no string is malformed.
def Move.ofJson (text : String) : Except Json.Problem Move := ofJsonUnder .malformed text

def Outcome.ofJson (text : String) : Except Json.Problem Outcome := ofJsonUnder .malformed text

def Round.ofJson (text : String) : Except Json.Problem Round := ofJsonUnder .malformed text

end Roshambo
