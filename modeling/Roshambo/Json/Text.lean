import Roshambo.Json.Reader

/-! # JSON strings

`readText` reads a string behind its opening quote and gives the characters that it stands for;
`skipText` passes over one. A raw control or an unknown escape is no string. The two differ in the
escapes by number: where a string is read, a surrogate must be the first half of a pair and be
followed by the second half, while a string that is passed over may hold any four hexadecimal
digits.
-/

namespace Roshambo.Json

def escaped? : Char → Option Char
  | '"' => some '"'
  | '\\' => some '\\'
  | '/' => some '/'
  | 'b' => some '\x08'
  | 'f' => some '\x0C'
  | 'n' => some '\n'
  | 'r' => some '\r'
  | 't' => some '\t'
  | _ => none

def unitOf? (a b c d : Char) : Option Nat := do
  let a ← Text.hexValue? a
  let b ← Text.hexValue? b
  let c ← Text.hexValue? c
  let d ← Text.hexValue? d
  return ((a * 16 + b) * 16 + c) * 16 + d

/-- Read four hexadecimal digits. A text of fewer than four bytes has ended too early; four bytes in
fewer characters hold something else than digits. -/
def readUnit : Reader Nat
  | a :: b :: c :: d :: rest =>
    match unitOf? a b c d with
    | some unit => .ok (unit, rest)
    | none => .error .malformed
  | short =>
    if 4 ≤ short.foldr (fun c size => c.utf8Size + size) 0 then .error .malformed
    else .error .truncated

/-- Whether a unit is the first half of a pair. -/
def isLead (unit : Nat) : Bool := 0xD800 ≤ unit && unit ≤ 0xDBFF

/-- Whether a unit is the second half of a pair. -/
def isTrail (unit : Nat) : Bool := 0xDC00 ≤ unit && unit ≤ 0xDFFF

def ofPair (lead trail : Nat) : Char :=
  Char.ofNat (0x10000 + (lead - 0xD800) * 0x400 + (trail - 0xDC00))

/-- Read the character of an escape by number, one unit or a pair. -/
def readNumbered : Reader Char := do
  let unit ← readUnit
  if isTrail unit then Reader.fail .malformed
  else if isLead unit then do
    expect ['\\', 'u']
    let trail ← readUnit
    if isTrail trail then return ofPair unit trail else Reader.fail .malformed
  else return Char.ofNat unit

def skipNumbered : Reader Char := do
  let _ ← readUnit
  return '\uFFFD'

/-- Read an escape behind its backslash, given how escapes by number are read. -/
def readEscape (numbered : Reader Char) : Reader Char
  | [] => .error .truncated
  | 'u' :: rest => numbered rest
  | c :: rest =>
    match escaped? c with
    | some d => .ok (d, rest)
    | none => .error .malformed

theorem consumes_readUnit : readUnit.Consumes := by
  intro input rest value read
  unfold readUnit at read
  split at read
  · split at read
    · cases read
      simp only [List.length_cons]
      omega
    · cases read
  · split at read <;> cases read

private theorem consumes_readNumbered : readNumbered.Consumes := by
  apply consumes_readUnit.bind
  intro unit
  split
  · exact Reader.shrinks_fail _
  split
  · apply (shrinks_expect _).bind
    intro _
    apply consumes_readUnit.shrinks.bind
    intro trail
    split
    · exact Reader.shrinks_pure _
    · exact Reader.shrinks_fail _
  · exact Reader.shrinks_pure _

private theorem consumes_skipNumbered : skipNumbered.Consumes :=
  consumes_readUnit.bind fun _ => Reader.shrinks_pure _

theorem consumes_readEscape {numbered : Reader Char} (consumes : numbered.Consumes) :
    (readEscape numbered).Consumes := by
  intro input rest value read
  unfold readEscape at read
  split at read
  · cases read
  · exact Nat.lt_succ_of_lt (consumes read)
  · split at read
    · cases read
      exact Nat.lt_succ_self _
    · cases read

/-- Read a string behind its opening quote, given how escapes by number are read. -/
def scanText (numbered : Reader Char) (consumes : numbered.Consumes) : Reader (List Char)
  | [] => .error .truncated
  | c :: rest =>
    if c = '"' then .ok ([], rest)
    else if c = '\\' then
      match _ : readEscape numbered rest with
      | .error problem => .error problem
      | .ok (d, rest) =>
        match scanText numbered consumes rest with
        | .error problem => .error problem
        | .ok (text, rest) => .ok (d :: text, rest)
    else if c < ' ' then .error .malformed
    else
      match scanText numbered consumes rest with
      | .error problem => .error problem
      | .ok (text, rest) => .ok (c :: text, rest)
termination_by input => input.length
decreasing_by
  · exact Nat.lt_succ_of_lt (consumes_readEscape consumes ‹_›)
  · exact Nat.lt_succ_self _

theorem consumes_scanText (numbered : Reader Char) (consumes : numbered.Consumes) :
    (scanText numbered consumes).Consumes := by
  intro input
  fun_induction scanText numbered consumes input with
  | case1 | case3 | case4 | case6 | case7 => intro rest value read; cases read
  | case2 => intro rest value read; cases read; exact Nat.lt_succ_self _
  | case5 rest d after escape text left found _ ih =>
    intro rest value read
    cases read
    exact Nat.lt_succ_of_lt (Nat.lt_trans (ih found) (consumes_readEscape consumes escape))
  | case8 _ _ _ _ _ _ _ found ih =>
    intro rest value read
    cases read
    exact Nat.lt_succ_of_lt (ih found)

def readText : Reader (List Char) := scanText readNumbered consumes_readNumbered

def skipText : Reader Unit := do
  let _ ← scanText skipNumbered consumes_skipNumbered

theorem consumes_readText : readText.Consumes := consumes_scanText _ _

theorem consumes_skipText : skipText.Consumes :=
  (consumes_scanText _ _).bind fun _ => Reader.shrinks_pure _

end Roshambo.Json
