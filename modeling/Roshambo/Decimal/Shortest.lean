/-! # The shortest decimal that reads back

A positive double is `mantissa * 2 ^ exponent`. The reals that round to it form an interval around
it, with its ends included when the mantissa is even. `shortest` takes the coarsest decimal grid
that has a point in the interval, and of two neighbours on it the nearer one. All comparisons are
between natural numbers, so no rounding takes place. `Layout.write` lays the digits out.
-/

namespace Roshambo

/-- A decimal number: `digits * 10 ^ exponent`. -/
structure Decimal where
  digits : Nat
  exponent : Int
deriving DecidableEq, Repr

namespace Decimal

structure Ratio where
  num : Nat
  den : Nat

def Ratio.scaled (number : Nat) (exponent : Int) : Ratio :=
  ⟨number * Nat.pow 2 exponent.toNat, Nat.pow 2 (-exponent).toNat⟩

/-- A positive double and the ends of the interval of reals that round to it. -/
structure Rounded where
  value : Ratio
  low : Ratio
  high : Ratio
  closed : Bool

/-- A positive finite double by its bits: a power of two has a nearer neighbour below. -/
def Rounded.ofBits (bits : UInt64) : Rounded :=
  let exponent := ((bits >>> 52) &&& 0x7FF).toNat
  let fraction := (bits &&& 0xFFFFFFFFFFFFF).toNat
  let mantissa := if exponent = 0 then fraction else fraction + 0x10000000000000
  let power : Int := (max exponent 1 : Nat) - 1077
  let below := if fraction = 0 ∧ exponent > 1 then 1 else 2
  { value := .scaled (4 * mantissa) power
    low := .scaled (4 * mantissa - below) power
    high := .scaled (4 * mantissa + 2) power
    closed := mantissa % 2 = 0 }

/-- A point of a decimal grid as a fraction. -/
def ratio (decimal : Decimal) : Ratio :=
  ⟨decimal.digits * Nat.pow 10 decimal.exponent.toNat, Nat.pow 10 (-decimal.exponent).toNat⟩

def Ratio.less (first second : Ratio) : Bool := first.num * second.den < second.num * first.den

/-- Whether a fraction rounds to the double. -/
def Rounded.takes (double : Rounded) (point : Ratio) : Bool :=
  if double.closed then !point.less double.low && !double.high.less point
  else double.low.less point && point.less double.high

/-- The exponent of the first decimal digit of a positive fraction. -/
def Ratio.leading (ratio : Ratio) : Int :=
  let whole := ratio.num / ratio.den
  if whole > 0 then ((Nat.toDigits 10 whole).length : Int) - 1
  else
    match (List.range 330).find? fun places => ratio.num * Nat.pow 10 places ≥ ratio.den with
    | some places => -places
    | none => 0

/-- The point of the grid with the given exponent that is next below a fraction. -/
def Ratio.floor (ratio : Ratio) (exponent : Int) : Decimal :=
  ⟨ratio.num * Nat.pow 10 (-exponent).toNat / (ratio.den * Nat.pow 10 exponent.toNat), exponent⟩

/-- Of two points around a fraction the nearer one; half way, the one with the even digit. -/
def Ratio.nearer (ratio : Ratio) (below above : Decimal) : Decimal :=
  let middle : Ratio := ⟨(2 * below.digits + 1) * Nat.pow 10 below.exponent.toNat,
    2 * Nat.pow 10 (-below.exponent).toNat⟩
  if ratio.less middle then below
  else if middle.less ratio then above
  else if below.digits % 2 = 0 then below
  else above

/-- The point of one grid that stands for a double, if the grid has one. -/
def Rounded.onGrid (double : Rounded) (exponent : Int) : Option Decimal :=
  let below := double.value.floor exponent
  let above : Decimal := { below with digits := below.digits + 1 }
  match double.takes below.ratio, double.takes above.ratio with
  | true, true => some (double.value.nearer below above)
  | true, false => some below
  | false, true => some above
  | false, false => none

/-- The shortest decimal that rounds to a positive double: seventeen digits are always enough. -/
def shortest (bits : UInt64) : Decimal :=
  let double := Rounded.ofBits bits
  let leading := double.value.leading
  match (List.range 17).findSome? fun (more : Nat) => double.onGrid (leading - more) with
  | some decimal => decimal
  | none => double.value.floor (leading - 16)

structure Layout where
  leastPositional : Int
  mostPositional : Int

namespace Layout

/-- Digits with a point among, before or behind them; the first digit stands for the given power
of ten. A whole number keeps one zero behind its point. -/
def positional (digits : List Char) (leading : Int) : List Char :=
  if leading < 0 then
    ['0', '.'] ++ List.replicate (-leading - 1).toNat '0' ++ digits
  else
    let before := leading.toNat + 1
    if digits.length ≤ before then
      digits ++ List.replicate (before - digits.length) '0' ++ ['.', '0']
    else digits.take before ++ ['.'] ++ digits.drop before

/-- One digit, the others behind a point, and the power of ten with its sign. -/
def scientific (digits : List Char) (leading : Int) : List Char :=
  digits.take 1 ++ (if digits.length > 1 then ['.'] else []) ++ digits.drop 1
    ++ ['e', if leading < 0 then '-' else '+'] ++ Nat.toDigits 10 leading.natAbs

/-- The digits of a number without the zeros behind the last other digit. -/
def significant (digits : Nat) : List Char :=
  ((Nat.toDigits 10 digits).reverse.dropWhile (· = '0')).reverse

def write (layout : Layout) (value : Float) : String :=
  let bits := value.toBits
  let magnitude := bits &&& 0x7FFFFFFFFFFFFFFF
  let sign := if bits = magnitude then [] else ['-']
  if magnitude = 0 then String.ofList (sign ++ ['0', '.', '0'])
  else
    let decimal := shortest magnitude
    let leading := decimal.exponent + ((Nat.toDigits 10 decimal.digits).length : Int) - 1
    let digits := significant decimal.digits
    String.ofList (sign ++
      if layout.leastPositional ≤ leading ∧ leading ≤ layout.mostPositional then
        positional digits leading
      else scientific digits leading)

end Layout

end Decimal

end Roshambo
