import Roshambo.Decimal.Shortest
import Roshambo.Text.Quoted

/-! # Problems with a JSON text

Reading a text can fail in three ways: it is no JSON where it was being read, it ends too early, or
it is JSON that says something else than what was asked for. Only the last comes with a message,
`Mismatch.message`.
-/

namespace Roshambo.Json

/-- Numbers with a point: the fewest digits that read back, positional from the -5th to the 15th
power of ten, and with a signed exponent otherwise. -/
def floatLayout : Decimal.Layout where
  leastPositional := -5
  mostPositional := 15

/-- What stands in a text where another value was asked for. -/
inductive Found where
  | integer (value : Int)
  | float (value : Float)
  | boolean (value : Bool)
  | string (value : String)
  | null
  | sequence
  | map

def Found.description : Found → String
  | integer value => "integer `" ++ value.repr ++ "`"
  | float value => "floating point `" ++ floatLayout.write value ++ "`"
  | boolean value => "boolean `" ++ (if value then "true" else "false") ++ "`"
  | string value => "string " ++ Text.quote value
  | null => "null"
  | sequence => "sequence"
  | map => "map"

/-- Well-formed JSON that is not what was asked for. -/
inductive Mismatch where
  | unknownVariant (name : String) (variants : List String)
  | invalidType (found : Found) (expected : String)
  | invalidLength (count : Nat) (expected : String)
  | duplicateField (key : String)
  | missingField (key : String)

def ticked (name : String) : String := "`" ++ name ++ "`"

def Mismatch.message : Mismatch → String
  | unknownVariant name variants =>
    "unknown variant " ++ ticked name ++ ", expected one of "
      ++ ", ".intercalate (variants.map ticked)
  | invalidType found expected => "invalid type: " ++ found.description ++ ", expected " ++ expected
  | invalidLength count expected =>
    "invalid length " ++ count.repr ++ ", expected " ++ expected
  | duplicateField key => "duplicate field " ++ ticked key
  | missingField key => "missing field " ++ ticked key

inductive Problem where
  | malformed
  | truncated
  | mismatch (mismatch : Mismatch)

end Roshambo.Json
