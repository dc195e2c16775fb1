import RobotScript.Console.Arguments
import RobotScript.Console.Command
import RobotScript.Field.Basic
import RobotScript.Field.Error
import RobotScript.Field.Picture
import RobotScript.Field.Snapshot
import RobotScript.Field.Update
import RobotScript.Grid.Cell
import RobotScript.Grid.Direction
import RobotScript.Grid.Robot
import RobotScript.Grid.Wall
import RobotScript.Json.Codec
import RobotScript.Json.Exchange
import RobotScript.Json.Printer
import RobotScript.Json.Reader
import RobotScript.Json.Value
import RobotScript.Main
import RobotScript.Run.Engine
import RobotScript.Run.Event
import RobotScript.Run.Machine
import RobotScript.Run.Report
import RobotScript.Run.Settings
import RobotScript.Script.Blocks
import RobotScript.Script.Command
import RobotScript.Script.Condition
import RobotScript.Script.Failure
import RobotScript.Script.Program
import RobotScript.Script.Source
import RobotScript.Script.Vocabulary
import RobotScript.Session.Basic
import RobotScript.Session.Run
import RobotScript.Text.Blank
import RobotScript.Text.CaseTable
import RobotScript.Text.Lines
import RobotScript.Text.Lowercase
import RobotScript.Text.Numeral
import RobotScript.Text.Printable
import RobotScript.Text.Quoted
import RobotScript.Text.Ranges
import RobotScript.Proofs.Grid.Edge
import RobotScript.Proofs.Run.Resume
import RobotScript.Proofs.Run.Course
import RobotScript.Proofs.Run.Effect
import RobotScript.Proofs.Run.Control
import RobotScript.Proofs.Run.Limit
import RobotScript.Proofs.Structured.Block
import RobotScript.Proofs.Structured.Walk
import RobotScript.Proofs.Structured.Refinement
import RobotScript.Proofs.Structured.Nesting
import RobotScript.Proofs.Structured.Sequence
import RobotScript.Proofs.Session.Actions
import RobotScript.Proofs.Session.Agreement
import RobotScript.Proofs.Session.Delay
import RobotScript.Proofs.Session.Interleaving
import RobotScript.Proofs.Session.Isolation
import RobotScript.Proofs.Session.Cancellation
import RobotScript.Proofs.Run.Collision
import RobotScript.Proofs.Run.Replay
import RobotScript.Proofs.Run.Fault
import RobotScript.Proofs.Script.Grammar
import RobotScript.Proofs.Symmetry.Mirror
import RobotScript.Proofs.Symmetry.Script
import RobotScript.Proofs.Symmetry.Equivariance
import RobotScript.Proofs.Field.Validity
import RobotScript.Proofs.Field.Snapshot
import RobotScript.Proofs.Script.BlockCheck
import RobotScript.Proofs.Run.Turns
import RobotScript.Proofs.Run.Indifference
import RobotScript.Proofs.Script.Registration
import RobotScript.Proofs.Session.KnownWords
import RobotScript.Proofs.Text.Feeds
import RobotScript.Proofs.Script.Concatenation
import RobotScript.Proofs.Json.RoundTrip
import RobotScript.Proofs.Json.Text
import RobotScript.Proofs.Console.Chain
import RobotScript.Proofs.Field.Picture
import RobotScript.Proofs.Session.Visits
import RobotScript.Proofs.Run.LoopStack
import RobotScript.Proofs.Structured.Enclosing
import RobotScript.Proofs.Field.Update
import RobotScript.Proofs.Run.Guarded
import RobotScript.Proofs.Run.Straight
import RobotScript.Proofs.Run.FixedWidth
import RobotScript.Proofs.Field.Edges
import RobotScript.Proofs.Script.Listing
import RobotScript.Proofs.Run.Orient
import RobotScript.Proofs.Run.Onward
