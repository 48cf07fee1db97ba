import TapeConsole.App
import TapeConsole.Arguments
import TapeConsole.Directory
import TapeConsole.Headless
import TapeConsole.Text.Lines
set_option autoImplicit false

/-!
# Running the program

An invocation of the program is its command line with everything it can see:
the files, the standard input, the keys typed and what the log should show.
`Invocation.run` gives what is left when the program has ended: its exit code,
what it wrote and the files.
-/

namespace TapeConsole

/-- The program that is run when none is given: two and three are added. -/
def demoProgram : String :=
  "++        first cell holds 2\n" ++
  ">\n" ++
  "+++       second cell holds 3\n" ++
  "[-<+>]    move the second cell onto the first\n" ++
  "<         back to the sum\n"

/-- The text of the program a configuration names. -/
def Config.source (c : Config) (d : Directory) : Except FileFault String :=
  match c.eval with
  | some text => .ok text
  | none =>
      match c.programFile with
      | some path => d.readText path
      | none => .ok demoProgram

/-- What `--version` prints. -/
def versionText : String := "tapetty 0.1.0\n"

/-- What `--help` prints. -/
def helpText : String :=
  "Watch a tape-language program run, one accelerating step at a time\n\n" ++
  "Usage: tapetty [OPTIONS] [PROGRAM_FILE]\n\n" ++
  "Options:\n" ++
  "  -e, --eval <EVAL>            Program text\n" ++
  "  -r, --rate <RATE>            Ticks per second [default: 60]\n" ++
  "      --headless               Run without the terminal UI\n" ++
  "      --max-ticks <MAX_TICKS>  Give up after this many ticks\n" ++
  "      --log-file <LOG_FILE>    Append the log to this file\n" ++
  "  -h, --help                   Print help\n" ++
  "  -V, --version                Print version\n"

/-- Why the program ends with an error. -/
inductive Failure where
  | file (fault : FileFault)
  | headless (failure : Headless.Failure)
  | fault (fault : Fault)
  deriving DecidableEq, Repr, Inhabited

/-- A fault with its fields. -/
def Fault.details (f : Fault) : String :=
  "UnbalancedBrackets \x7b position: " ++ toString f.position ++ ", bracket: '" ++
    f.bracket.toString ++ "' \x7d"

/-- A failure with its fields. -/
def Failure.details : Failure → String
  | .file f => f.details
  | .fault f => f.details
  | .headless (.engine f) => "Engine(" ++ f.details ++ ")"
  | .headless (.tickLimit limit) => "TickLimit(" ++ toString limit ++ ")"
  | .headless (.input reason) =>
      "Input(Custom \x7b kind: Other, error: \"" ++ reason ++ "\" \x7d)"

/-- The last line of a program that ends with an error. -/
def Failure.line (f : Failure) : String := "Error: " ++ f.details

/-- The program with everything it can see. -/
structure Invocation where
  /-- The words of the command line. -/
  arguments : List String
  /-- The files. -/
  directory : Directory := {}
  /-- The bytes of the standard input. -/
  stdin : List UInt8 := []
  /-- The events of the terminal, each typed when a value is waited for. -/
  events : List TerminalEvent := []
  /-- What the log shows, as text. -/
  filter : Option String := none
  deriving DecidableEq, Repr, Inhabited

/-- What is left when the program has ended. -/
structure Exit where
  code : Nat
  stdout : List UInt8 := []
  /-- The lines on the standard error stream. -/
  stderr : List String := []
  directory : Directory
  deriving DecidableEq, Repr, Inhabited

namespace Invocation

/-- The filter if nothing is said about it. -/
def defaultFilter : String := "warn"

/-- Which records the log shows. -/
def logFilter (i : Invocation) : LogFilter := .parse (i.filter.getD defaultFilter)

/-- The warnings about the text of the filter, which is read if there is a log. -/
def logWarnings (i : Invocation) : LogTarget → List String
  | .off => []
  | _ => LogFilter.warnings (i.filter.getD defaultFilter)

/-- Text as bytes. -/
def textBytes (text : String) : List UInt8 := text.toUTF8.toList

/-- Write the records to where the log goes: the files, and the lines on the standard
error stream. -/
def writeLog (i : Invocation) (target : LogTarget) (d : Directory) (records : List Record) :
    Directory × List String :=
  let lines := i.logFilter.lines records
  match target with
  | .off => (d, [])
  | .standardError => (d, lines)
  | .file path =>
      match d.append path (textBytes (String.join (lines.map (· ++ "\n")))) with
      | .ok d => (d, [])
      | .error _ => (d, [])

/-- The end of the program after its work. -/
def finish (i : Invocation) (target : LogTarget) (d : Directory) (records : List Record)
    (stdout : List UInt8) (failure : Option Failure) : Exit :=
  let (d, lines) := i.writeLog target d records
  let lines := (i.logWarnings target).flatMap textLines ++ lines
  match failure with
  | none => { code := 0, stdout, stderr := lines, directory := d }
  | some f => { code := 1, stdout, stderr := lines ++ [f.line], directory := d }

/-- Run a program without a screen. -/
def runHeadless (i : Invocation) (c : Config) (d : Directory) (source : String) : Option Exit :=
  let start := Headless.State.start source (i.stdin.map .byte) {}
  (Headless.run c.maxTicks start).map fun (state, result) =>
    let records := state.machine.log.toList
    let stdout := state.machine.sink.held
    match result with
    | .ok s =>
        i.finish c.logTarget d (records ++ [.finished s.dispatched s.ticks]) stdout none
    | .error f => i.finish c.logTarget d records stdout (some (.headless f))

/-- Let the tick thread run until the machine is paused, then type the next event, until the
user leaves.  When nothing is waited for any more, or there is nothing to type, escape is
typed. -/
def interact (bound : Nat) (a : App) : List TerminalEvent → App
  | [] => (a.untilPaused bound).press { code := .esc }
  | event :: rest =>
      let a := a.untilPaused bound
      if a.machine.engine.blocked then
        let a := a.handle event
        if a.quit then a else interact bound a rest
      else a.press { code := .esc }

/-- Run a program on the screen.  Its output is printed when the screen has been left. -/
def runScreen (i : Invocation) (c : Config) (d : Directory) (source : String) : Exit :=
  let engine := Engine.ofSource source
  let machine : Machine := { engine }
  let machine := machine.note (.loaded engine.program.length)
  let a := interact Headless.horizon { machine } i.events
  let output := a.machine.engine.output
  let stdout := if output.isEmpty then [] else textBytes (output ++ "\n")
  i.finish c.logTarget d a.machine.log.toList stdout (a.machine.engine.fault.map .fault)

/-- Run a configuration: the log is opened first, then the program is loaded. -/
def runConfig (i : Invocation) (c : Config) : Option Exit :=
  let opened := match c.logTarget with
    | .file path => i.directory.append path []
    | _ => .ok i.directory
  match opened with
  | .error f => some (i.finish c.logTarget i.directory [] [] (some (.file f)))
  | .ok d =>
      match c.source d with
      | .error f => some (i.finish c.logTarget d [] [] (some (.file f)))
      | .ok source =>
          if c.headless then i.runHeadless c d source else some (i.runScreen c d source)

/-- Run the program; no result if it goes on for ever. -/
def run (i : Invocation) : Option Exit :=
  match Arguments.parse i.arguments with
  | .ok c => i.runConfig c
  | .error .displayHelp =>
      some { code := 0, stdout := textBytes helpText, directory := i.directory }
  | .error .displayVersion =>
      some { code := 0, stdout := textBytes versionText, directory := i.directory }
  | .error f =>
      some { code := 2, stderr := ["error: " ++ f.message], directory := i.directory }

end Invocation

end TapeConsole
