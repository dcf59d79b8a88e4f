/-! # Faults of the console

A fault is what a device reports when a read, a write or a flush fails: its kind, and perhaps a
message of its own. A game that cannot go on ends with a `GameError`: a fault, or an input that was
closed before a move was chosen.
-/

namespace Roshambo

inductive FaultKind where
  | brokenPipe
  | wouldBlock
  | timedOut
  | permissionDenied
  | notFound
  | other
  | unexpectedEnd
  | interrupted
  | invalidData
  | connectionReset
  | writeZero
  | invalidInput
deriving DecidableEq, Repr

def FaultKind.description : FaultKind → String
  | brokenPipe => "broken pipe"
  | wouldBlock => "operation would block"
  | timedOut => "timed out"
  | permissionDenied => "permission denied"
  | notFound => "entity not found"
  | other => "other error"
  | unexpectedEnd => "unexpected end of file"
  | interrupted => "operation interrupted"
  | invalidData => "invalid data"
  | connectionReset => "connection reset"
  | writeZero => "write zero"
  | invalidInput => "invalid input parameter"

structure Fault where
  kind : FaultKind
  note : Option String
deriving DecidableEq, Repr

namespace Fault

/-- The note of a fault, or what its kind says by itself. -/
def text (fault : Fault) : String := fault.note.getD fault.kind.description

/-- An interrupted operation is tried again; any other fault ends it. -/
def isInterrupted (fault : Fault) : Bool := fault.kind == .interrupted

/-- The fault of a device that takes no byte of a text and gives no reason. -/
def nothingWritten : Fault := ⟨.writeZero, some "failed to write whole buffer"⟩

end Fault

/-- Why a game ends early. -/
inductive GameError where
  | io (fault : Fault)
  | inputClosed
deriving DecidableEq, Repr

def GameError.message : GameError → String
  | io fault => "console I/O failed: " ++ fault.text
  | inputClosed => "input closed before a move was chosen"

end Roshambo
