import Roshambo.Console.Device
import Roshambo.Console.Script
import Roshambo.Log
import Roshambo.Text.Utf8

/-! # Consoles

A console is an input script, an output device and a log. An `Action` runs on a console and either
gives a value or ends with a `GameError`; in both cases the console keeps what the action has done
to it, so a failed action still shows what it wrote, read and logged.
-/

namespace Roshambo

structure Console where
  input : Script
  device : Device
  log : List LogEntry

/-- What can be done on a console. -/
def Action (α : Type) : Type := Console → Except GameError α × Console

namespace Action

variable {α β : Type}

/-- A failed first action ends the whole. -/
instance : Monad Action where
  pure value console := (.ok value, console)
  bind first next console :=
    match first console with
    | (.ok value, console) => next value console
    | (.error error, console) => (.error error, console)

theorem pure_apply (value : α) (console : Console) :
    (pure value : Action α) console = (.ok value, console) := rfl

theorem bind_apply (first : Action α) (next : α → Action β) (console : Console) :
    (first >>= next) console =
      match first console with
      | (.ok value, console) => next value console
      | (.error error, console) => (.error error, console) := rfl

def fail (error : GameError) : Action α := fun console => (.error error, console)

def remark (entries : List LogEntry) : Action Unit :=
  fun console => (.ok (), { console with log := console.log ++ entries })

/-- Print a text as it stands. -/
def print (text : String) : Action Unit := fun console =>
  let (result, device) := console.device.write (Text.encode text)
  (result.mapError .io, { console with device })

def flush : Action Unit := fun console =>
  let (result, device) := console.device.flush
  (result.mapError .io, { console with device })

def readLine : Action (List UInt8) := fun console =>
  let (result, input) := console.input.readLine
  (result.mapError .io, { console with input })

/-- Print a prompt, flush it, and only then read a line. -/
def ask (prompt : String) : Action (List UInt8) := do
  print prompt
  flush
  readLine

private theorem print_input (text : String) (console : Console) :
    (print text console).2.input = console.input := rfl

private theorem flush_input (console : Console) : (flush console).2.input = console.input := rfl

/-- The bytes of a line that was asked for are those that the input has lost. -/
theorem ask_ok_length {prompt : String} {console after : Console} {line : List UInt8}
    (asked : ask prompt console = (.ok line, after)) :
    line.length + after.input.byteCount = console.input.byteCount := by
  rw [ask, bind_apply] at asked
  split at asked
  next _ printed print_eq =>
    rw [bind_apply] at asked
    split at asked
    next _ flushed flush_eq =>
      have same : flushed.input = console.input := by
        have first := congrArg (fun result => result.2.input) print_eq
        have second := congrArg (fun result => result.2.input) flush_eq
        simp only [print_input] at first
        simp only [flush_input] at second
        rw [← second, ← first]
      simp only [readLine] at asked
      rcases read : flushed.input.readLine with ⟨result, rest⟩
      rw [read] at asked
      cases result with
      | error fault => cases asked
      | ok bytes =>
        cases asked
        rw [← same]
        exact Script.readLine_ok_length read
    next => cases asked
  next => cases asked

end Action

end Roshambo
