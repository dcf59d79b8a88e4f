import Roshambo.Program

/-! # The command line

One game on the standard streams. The program itself is a pure function of the opponent and of what
has been typed; here its output is shown as far as it goes, the next line is fetched, and the
program is run again with that line behind the others. Errors are logged on the error stream, and
the exit code is always zero.
-/

namespace Roshambo

/-- What the system says of a failed operation, with its number. -/
def systemText : IO.Error → String
  | .alreadyExists _ code details | .otherError code details | .resourceBusy code details
  | .resourceVanished code details | .unsupportedOperation code details
  | .hardwareFault code details | .unsatisfiedConstraints code details
  | .illegalOperation code details | .protocolError code details | .timeExpired code details
  | .interrupted _ code details | .noFileOrDirectory _ code details
  | .invalidArgument _ code details | .permissionDenied _ code details
  | .resourceExhausted _ code details | .inappropriateType _ code details
  | .noSuchThing _ code details => details ++ " (os error " ++ code.toNat.repr ++ ")"
  | .unexpectedEof => FaultKind.unexpectedEnd.description
  | .userError details => details

def systemFault (problem : IO.Error) : Fault :=
  match problem with
  | .interrupted .. => ⟨.interrupted, some (systemText problem)⟩
  | _ => ⟨.other, some (systemText problem)⟩

/-- Read bytes up to and including the next line feed, or up to the end of the input. -/
partial def fetchLine (input : IO.FS.Stream) (taken : List UInt8) : IO (List UInt8) := do
  match (← input.read 1).toList with
  | [] => return taken.reverse
  | byte :: _ =>
    if byte = lineFeed then return (byte :: taken).reverse else fetchLine input (byte :: taken)

/-- Fetch the next line; one that the end of the input cuts short is marked as such. Nothing is
fetched once the input has ended. -/
def fetch (input : IO.FS.Stream) : IO Script := do
  try
    let line ← fetchLine input []
    if line.isEmpty then return []
    else if line.getLast? == some lineFeed then return [.bytes line]
    else return [.bytes line, .endMark]
  catch problem => return [.fault (systemFault problem)]

/-- Show what the program writes behind the bytes already shown, and go on while it waits for a
line and there is one. -/
partial def interact (opponent : Opponent) (typed : Script) (shown : Nat) : IO Console := do
  let console := Program.run opponent ⟨typed, .unlimited, []⟩
  let output ← IO.getStdout
  output.write ⟨(console.device.output.drop shown).toArray⟩
  output.flush
  if Program.wantsLine console then
    match ← fetch (← IO.getStdin) with
    | [] => return console
    | fetched => interact opponent (typed ++ fetched) console.device.output.length
  else return console

/-- Play one game against an opponent with a key of its own, and log how it ended. -/
def playOnce : IO Unit := do
  let key ← IO.getRandomBytes 32
  let console ← interact (.random (.keyed (.ofKeyBytes key.toList))) [] 0
  for line in Program.shownLog console do
    IO.eprintln line

end Roshambo

/-- Play one game; an output that fails is logged like any other fault. -/
def main : IO Unit := do
  try Roshambo.playOnce
  catch problem =>
    IO.eprintln (Roshambo.LogEntry.endedEarly (.io (Roshambo.systemFault problem))).line
