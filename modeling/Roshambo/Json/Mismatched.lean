import Roshambo.Json.Numeral
import Roshambo.Json.Text

/-! # Values of the wrong type

Where a value is not of the type that was asked for, it is read far enough to say what it is: a
scalar to its end, an array or object no further than its bracket. If it is no JSON value at all,
that is the problem instead.
-/

namespace Roshambo.Json

/-- Read a number as what was found; one that is too large for a double is malformed. -/
def readFoundNumber : Reader Found := do
  let numeral ← readNumeral .truncated
  match numeral.value? with
  | some (.integer value) => return .integer value
  | some (.float value) => return .float value
  | none => Reader.fail .malformed

def beginsNumber (c : Char) : Bool := c == '-' || c.isDigit

def readFound : Reader Found
  | [] => .error .truncated
  | '[' :: rest => .ok (.sequence, rest)
  | '\x7b' :: rest => .ok (.map, rest)
  | '"' :: rest => (do return .string (String.ofList (← readText)) : Reader Found) rest
  | 'n' :: rest => (do expect ['u', 'l', 'l']; return .null : Reader Found) rest
  | 't' :: rest => (do expect ['r', 'u', 'e']; return .boolean true : Reader Found) rest
  | 'f' :: rest => (do expect ['a', 'l', 's', 'e']; return .boolean false : Reader Found) rest
  | c :: rest => if beginsNumber c then readFoundNumber (c :: rest) else .error .malformed

/-- The problem with a text at whose front something else was expected. -/
def unexpected (expected : String) (input : List Char) : Problem :=
  match readFound input with
  | .ok (found, _) => .mismatch (.invalidType found expected)
  | .error problem => problem

end Roshambo.Json
