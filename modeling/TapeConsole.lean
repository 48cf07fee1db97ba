import TapeConsole.App
import TapeConsole.Arguments
import TapeConsole.Bracket
import TapeConsole.Clock
import TapeConsole.Directory
import TapeConsole.Engine
import TapeConsole.Headless
import TapeConsole.Instruction
import TapeConsole.Invocation
import TapeConsole.Key
import TapeConsole.Log
import TapeConsole.Machine
import TapeConsole.Main
import TapeConsole.Number.Binary64
import TapeConsole.Number.Fixed
import TapeConsole.Number.Rounding
import TapeConsole.Pane.Output
import TapeConsole.Pane.Palette
import TapeConsole.Pane.Program
import TapeConsole.Pane.Status
import TapeConsole.Pane.Tape
import TapeConsole.Pattern.Compile
import TapeConsole.Pattern.Fault
import TapeConsole.Pattern.Matcher
import TapeConsole.Pattern.Property
import TapeConsole.Pattern.Reader
import TapeConsole.Pattern.Reader.Escape
import TapeConsole.Pattern.Reader.Group
import TapeConsole.Pattern.Reader.Pattern
import TapeConsole.Pattern.Reader.Repetition
import TapeConsole.Pattern.Reader.Set
import TapeConsole.Pattern.Tree
import TapeConsole.Program
import TapeConsole.Proofs.Absorption
import TapeConsole.Proofs.Accounting
import TapeConsole.Proofs.BracketSearch
import TapeConsole.Proofs.Calls
import TapeConsole.Proofs.CommandLine
import TapeConsole.Proofs.Copying
import TapeConsole.Proofs.CountingLoop
import TapeConsole.Proofs.Dispatch
import TapeConsole.Proofs.EndlessTape
import TapeConsole.Proofs.FairRun
import TapeConsole.Proofs.Faults
import TapeConsole.Proofs.FlatRun
import TapeConsole.Proofs.HeadlessRun
import TapeConsole.Proofs.InputProtocol
import TapeConsole.Proofs.Invariant
import TapeConsole.Proofs.Memo
import TapeConsole.Proofs.Nesting
import TapeConsole.Proofs.OutputTail
import TapeConsole.Proofs.Pace
import TapeConsole.Proofs.Pairing
import TapeConsole.Proofs.Passes
import TapeConsole.Proofs.ProgramRows
import TapeConsole.Proofs.Refinement
import TapeConsole.Proofs.Restart
import TapeConsole.Proofs.Schedule
import TapeConsole.Proofs.SearchOnce
import TapeConsole.Proofs.Spelling
import TapeConsole.Proofs.StepClock
import TapeConsole.Proofs.Structured
import TapeConsole.Proofs.TapeStrip
import TapeConsole.Proofs.Threshold
import TapeConsole.Proofs.TickLimit
import TapeConsole.Proofs.TickSource
import TapeConsole.Proofs.Transcript
import TapeConsole.Proofs.Walk
import TapeConsole.Screen.Ansi
import TapeConsole.Screen.Display
import TapeConsole.Screen.Grid
import TapeConsole.Screen.Panel
import TapeConsole.Screen.Style
import TapeConsole.Sink
import TapeConsole.Tape
import TapeConsole.Text.Blank
import TapeConsole.Text.CharRanges
import TapeConsole.Text.Cluster
import TapeConsole.Text.Columns
import TapeConsole.Text.Letter
import TapeConsole.Text.Lines
import TapeConsole.Text.Mark
import TapeConsole.Text.Pictograph
import TapeConsole.Ticker
import TapeConsole.View
