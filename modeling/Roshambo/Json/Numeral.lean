import Roshambo.Json.Reader

/-! # JSON numerals

`readNumeral` reads a number as it is written: a sign, digits without leading zeros, perhaps places
after a point and an exponent, each with at least one digit. What a numeral that breaks off at the
end of the text is called is left to the caller. `Numeral.value?` gives the number it stands for:
an integer if it fits 64 bits and is written without point and exponent, else a double, unless it
is too large for one.
-/

namespace Roshambo.Json

structure Numeral where
  negative : Bool
  whole : List Nat
  places : Option (List Nat)
  power : Option (Bool × List Nat)
deriving DecidableEq, Repr

def digit? (c : Char) : Option Nat := if c.isDigit then some (c.toNat - '0'.toNat) else none

def takeDigits : List Char → List Nat × List Char
  | [] => ([], [])
  | c :: rest =>
    match digit? c with
    | some digit => (digit :: (takeDigits rest).1, (takeDigits rest).2)
    | none => ([], c :: rest)

def readDigits (early : Problem) : Reader (List Nat) := fun input =>
  match takeDigits input with
  | ([], []) => .error early
  | ([], _ :: _) => .error .malformed
  | digits => .ok digits

/-- Read digits of which the first is zero only if it is the only one. -/
def readWhole (early : Problem) : Reader (List Nat) := do
  let digits ← readDigits early
  match digits with
  | 0 :: _ :: _ => Reader.fail .malformed
  | digits => return digits

def readPlaces (early : Problem) : Reader (Option (List Nat))
  | '.' :: rest => (do return some (← readDigits early) : Reader _) rest
  | input => .ok (none, input)

/-- Read the sign of an exponent; without one it is positive. -/
def readSign : Reader Bool
  | '-' :: rest => .ok (true, rest)
  | '+' :: rest => .ok (false, rest)
  | input => .ok (false, input)

def readPowerDigits (early : Problem) : Reader (Option (Bool × List Nat)) := do
  let negative ← readSign
  return some (negative, ← readDigits early)

def readPower (early : Problem) : Reader (Option (Bool × List Nat))
  | 'e' :: rest | 'E' :: rest => readPowerDigits early rest
  | input => .ok (none, input)

def readUnsigned (early : Problem) (negative : Bool) : Reader Numeral := do
  let whole ← readWhole early
  let places ← readPlaces early
  let power ← readPower early
  return ⟨negative, whole, places, power⟩

/-- Read a numeral; one that breaks off at the end of the text meets the problem `early`. -/
def readNumeral (early : Problem) : Reader Numeral
  | '-' :: rest => readUnsigned early true rest
  | input => readUnsigned early false input

private theorem takeDigits_length_le (input : List Char) :
    (takeDigits input).2.length ≤ input.length := by
  fun_induction takeDigits input with
  | case1 => exact Nat.le_refl _
  | case2 c rest digit _ ih => exact Nat.le_succ_of_le ih
  | case3 => exact Nat.le_refl _

theorem consumes_readDigits (early : Problem) : (readDigits early).Consumes := by
  intro input rest value read
  cases input with
  | nil => cases read
  | cons c input =>
    have shorter := takeDigits_length_le input
    simp only [readDigits, takeDigits] at read
    cases found : digit? c with
    | none => rw [found] at read; cases read
    | some digit =>
      rw [found] at read
      cases read
      exact Nat.lt_succ_of_le shorter

private theorem consumes_readWhole (early : Problem) : (readWhole early).Consumes := by
  apply (consumes_readDigits early).bind
  intro digits
  split
  · exact Reader.shrinks_fail _
  · exact Reader.shrinks_pure _

private theorem shrinks_readPlaces (early : Problem) : (readPlaces early).Shrinks := by
  intro input rest value read
  unfold readPlaces at read
  split at read
  · exact Nat.le_succ_of_le
      (((consumes_readDigits early).bind fun _ => Reader.shrinks_pure _).shrinks read)
  · cases read
    exact Nat.le_refl _

private theorem shrinks_readSign : readSign.Shrinks := by
  intro input rest value read
  unfold readSign at read
  split at read
  · cases read; exact Nat.le_succ _
  · cases read; exact Nat.le_succ _
  · cases read; exact Nat.le_refl _

private theorem shrinks_readPower (early : Problem) : (readPower early).Shrinks := by
  have behind : (readPowerDigits early).Shrinks :=
    shrinks_readSign.bind fun _ =>
      (consumes_readDigits early).shrinks.bind fun _ => Reader.shrinks_pure _
  intro input rest value read
  unfold readPower at read
  split at read
  · exact Nat.le_succ_of_le (behind read)
  · exact Nat.le_succ_of_le (behind read)
  · cases read; exact Nat.le_refl _

theorem consumes_readUnsigned (early : Problem) (negative : Bool) :
    (readUnsigned early negative).Consumes :=
  (consumes_readWhole early).bind fun _ =>
    (shrinks_readPlaces early).bind fun _ =>
      (shrinks_readPower early).bind fun _ => Reader.shrinks_pure _

theorem consumes_readNumeral (early : Problem) : (readNumeral early).Consumes := by
  intro input rest value read
  unfold readNumeral at read
  split at read
  · exact Nat.lt_succ_of_lt (consumes_readUnsigned early true read)
  · exact consumes_readUnsigned early false read

inductive Number where
  | integer (value : Int)
  | float (value : Float)

/-- The largest number that the leading digits may make. -/
def significandMax : Nat := 0xFFFFFFFFFFFFFFFF

/-- Add whole digits to a significand as long as it stays in range; each further digit only stands
for a power of ten. -/
def addWhole (significand : Nat) : List Nat → Nat × Nat
  | [] => (significand, 0)
  | digit :: digits =>
    if significand * 10 + digit ≤ significandMax then
      addWhole (significand * 10 + digit) digits
    else (significand, digits.length + 1)

/-- Add digits behind the point to a significand as long as it stays in range, and count them; all
further digits are dropped. -/
def addPlaces (significand : Nat) : List Nat → Nat × Nat
  | [] => (significand, 0)
  | digit :: digits =>
    if significand * 10 + digit ≤ significandMax then
      let (significand, used) := addPlaces (significand * 10 + digit) digits
      (significand, used + 1)
    else (significand, 0)

def ofDigits (digits : List Nat) : Nat := digits.foldl (fun value digit => value * 10 + digit) 0

def powerMax : Nat := 308

def tenTo (power : Nat) : Float := Float.ofScientific 1 false power

/-- Divide by a power of ten, in parts that a double can hold. -/
def scaleDown (value : Float) (power : Nat) : Float :=
  if power ≤ powerMax then value / tenTo power
  else if value == 0.0 then value
  else scaleDown (value / tenTo powerMax) (power - powerMax)
termination_by power
decreasing_by simp only [powerMax] at *; omega

/-- A significand times a power of ten as a double, unless it is too large for one. -/
def scale? (significand : Nat) (power : Int) : Option Float :=
  let value := (UInt64.ofNat significand).toFloat
  if power < 0 then some (scaleDown value power.natAbs)
  else if power ≤ powerMax then
    let product := value * tenTo power.natAbs
    if product.isInf then none else some product
  else if significand = 0 then some value
  else none

def exponentMax : Nat := 0x7FFFFFFF

/-- The magnitude of a number with a point, an exponent or too many digits. An exponent beyond
counting makes it zero or too large. -/
def float? (significand : Nat) (shift : Int) : Option (Bool × List Nat) → Option Float
  | none => scale? significand shift
  | some (negative, digits) =>
    let power := ofDigits digits
    if power ≤ exponentMax then
      scale? significand (if negative then shift - power else shift + power)
    else if significand = 0 ∨ negative then some 0.0
    else none

def Numeral.value? (numeral : Numeral) : Option Number :=
  let (significand, excess) := addWhole 0 numeral.whole
  let signed (value : Float) : Number := .float (if numeral.negative then -value else value)
  match numeral.places, numeral.power with
  | none, none =>
    if excess > 0 then (scale? significand excess).map signed
    else if numeral.negative then
      if 0 < significand ∧ significand ≤ 0x8000000000000000 then
        some (.integer (-(significand : Int)))
      else some (signed (UInt64.ofNat significand).toFloat)
    else some (.integer significand)
  | places, power =>
    let (significand, used) := addPlaces significand (places.getD [])
    (float? significand ((excess : Int) - used) power).map signed

end Roshambo.Json
