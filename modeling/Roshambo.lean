import Roshambo.Move.Code
import Roshambo.Text.Utf8
import Roshambo.Round
import Roshambo.Cycle
import Roshambo.Random.ChaCha
import Roshambo.Random.Draw
import Roshambo.Console.Fault
import Roshambo.Log
import Roshambo.Opponent
import Roshambo.Roster
import Roshambo.Console.Device
import Roshambo.Console.Script
import Roshambo.Console.Settings
import Roshambo.Console
import Roshambo.Console.Prompting
import Roshambo.Game
import Roshambo.Program
import Roshambo.Session
import Roshambo.Decimal.Shortest
import Roshambo.Json.Problem
import Roshambo.Json.Reader
import Roshambo.Json.Text
import Roshambo.Json.Numeral
import Roshambo.Json.Mismatched
import Roshambo.Json.Skip
import Roshambo.Json.RoundForm
import Roshambo.Main
import Roshambo.Proofs.Console.Composed
import Roshambo.Proofs.Console.Writing
import Roshambo.Proofs.Console.Printing
import Roshambo.Proofs.Session.Steps
import Roshambo.Proofs.Session.Unseen
import Roshambo.Proofs.Session.Truncation
import Roshambo.Proofs.Console.Lines
import Roshambo.Proofs.Game.Transcript
import Roshambo.Proofs.Game.Stopping
import Roshambo.Proofs.Console.Deliveries
import Roshambo.Proofs.Session.Redelivery
import Roshambo.Proofs.Json.Lexical
import Roshambo.Proofs.Json.Nesting
import Roshambo.Proofs.Json.Naming
import Roshambo.Proofs.Json.Members
import Roshambo.Proofs.Console.Failures
import Roshambo.Proofs.Console.Flushes
import Roshambo.Proofs.Random.Blocks
import Roshambo.Proofs.Game.Choosing
import Roshambo.Proofs.Session.FaultReports
import Roshambo.Proofs.Json.Taken
import Roshambo.Proofs.Session.Consultation
import Roshambo.Proofs.Json.Passed
import Roshambo.Proofs.Json.Accepted
import Roshambo.Proofs.Json.Variants
import Roshambo.Proofs.Json.Settling
import Roshambo.Proofs.Json.FirstProblem
import Roshambo.Proofs.Json.Decided
import Roshambo.Proofs.Json.Forms
import Roshambo.Proofs.Random.Thirds
import Roshambo.Proofs.Roster.Alone
import Roshambo.Proofs.Session.ShortWrites
import Roshambo.Proofs.Session.Unflushed
import Roshambo.Proofs.Move.Spelling
import Roshambo.Proofs.Text.WellFormed
import Roshambo.Proofs.Game.LineBytes
import Roshambo.Proofs.Text.Unquoting
import Roshambo.Proofs.Move.Rejections
import Roshambo.Proofs.Session.Logbook
import Roshambo.Proofs.Console.Cuts
import Roshambo.Proofs.Game.Prompts
