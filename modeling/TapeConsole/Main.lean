import TapeConsole.Invocation
import TapeConsole.Screen.Ansi
set_option autoImplicit false

/-!
# The command line program

This module connects the parts to the operating system: files, the standard
streams, the clock and the terminal.  It decides nothing by itself.
-/

namespace TapeConsole.Console

/-- The environment variable that says what the log shows. -/
def filterVariable : String := "TAPE_LOG"

/-- Where log lines are written. -/
abbrev LogWriter := String → IO Unit

/-- What went wrong with a file. -/
def fileFault : IO.Error → FileFault
  | .inappropriateType _ code _ => if code = 20 then .notADirectory else .isADirectory
  | .invalidArgument _ code _ => if code = 36 then .nameTooLong else .invalidName
  | _ => .notFound

/-- The writer for a log target. -/
def openLog (filter : LogFilter) (target : LogTarget) :
    IO (Except FileFault (List Record → IO Unit)) := do
  let shown (write : LogWriter) (records : List Record) : IO Unit :=
    (filter.lines records).forM write
  match target with
  | .off => return .ok fun _ => pure ()
  | .standardError =>
      let stream ← IO.getStderr
      return .ok (shown stream.putStrLn)
  | .file path =>
      try
        let handle ← IO.FS.Handle.mk path .append
        return .ok (shown fun line => do
          handle.putStrLn line
          handle.flush)
      catch e => return .error (fileFault e)

/-- The text of the program a configuration names. -/
def loadSource (c : Config) : IO (Except FileFault String) := do
  match c.eval, c.programFile with
  | none, some path =>
      try
        let bytes ← IO.FS.readBinFile path
        return (Directory.ofFiles [("program", bytes.toList)]).readText "program"
      catch e => return .error (fileFault e)
  | _, _ => return c.source {}

/-- One read from the standard input. -/
def readEvent (input : IO.FS.Stream) : IO ReadEvent := do
  try
    let bytes ← input.read 1
    match bytes.toList with
    | b :: _ => return .byte b
    | [] => return .ended
  catch e => return .failed (toString e)

/-- Pass on what a headless run has written and logged since the last time. -/
def drain (log : List Record → IO Unit) (output : IO.FS.Stream) (s : Headless.State) :
    IO Headless.State := do
  log s.machine.log.toList
  match s.machine.sink.held with
  | [] => return { s with machine := s.machine.clearLog }
  | bytes =>
      try
        output.write ⟨bytes.toArray⟩
        output.flush
      catch e => log [.refused (toString e)]
      return { s with machine := { s.machine.clearLog with sink := .bytes {} } }

/-- Make passes of a headless run until it ends, reading a byte whenever one is needed. -/
partial def runHeadless (limit : Option Nat) (log : List Record → IO Unit)
    (input output : IO.FS.Stream) (s : Headless.State) :
    IO (Except Headless.Failure Headless.Summary) := do
  let needsByte := s.machine.engine.blocked && !Headless.atLimit limit s.ticks
  let reader ← if needsByte then pure [← readEvent input] else pure []
  let pass := Headless.State.step limit { s with reader := reader }
  match pass.result with
  | none =>
      let next ← drain log output pass.state
      runHeadless limit log input output next
  | some result =>
      let _ ← drain log output pass.state
      return result

/-- The key that a terminal sends as this byte. -/
def keyOfByte (b : UInt8) : Key :=
  match b.toNat with
  | 27 => { code := .esc }
  | 9 => { code := .tab }
  | 10 => { code := .enter }
  | 13 => { code := .enter }
  | n =>
      if n < 27 then { code := .char (Char.ofNat (96 + n)), control := true }
      else { code := .char (Char.ofNat n) }

/-- Read bytes from the terminal into a queue until there are no more. -/
partial def readKeys (input : IO.FS.Stream) (queue : IO.Ref (List UInt8)) : IO Unit := do
  let bytes ← input.read 1
  if bytes.isEmpty then return
  queue.modify (· ++ bytes.toList)
  readKeys input queue

/-- Let the tick thread go around as often as it is due, frame by frame, until the user
leaves. -/
partial def runScreen (rate width height : Nat) (log : List Record → IO Unit)
    (output : IO.FS.Stream) (queue : IO.Ref (List UInt8)) (start ticked : Nat)
    (display : Display) (a : App) : IO App := do
  let due := ((← IO.monoMsNow) - start) * rate / 1000
  let a := Nat.repeat App.tickRound (due - ticked) a
  let bytes ← queue.modifyGet fun bytes => (bytes, [])
  let a := (bytes.foldl (fun (a : App) b => if a.quit then a else a.press (keyOfByte b)) a).updateStatus
  log a.machine.log.toList
  let a := { a with machine := a.machine.clearLog }
  let display := display.update (a.draw width height)
  output.putStr display.shown.ansi
  output.flush
  if a.quit then return a
  IO.sleep 16
  runScreen rate width height log output queue start due display a

/-- A size from the environment, or a usual one. -/
def sizeFrom (name : String) (usual : Nat) : IO Nat := do
  return ((← IO.getEnv name).bind Arguments.number?).getD usual

/-- Run a program on the screen. -/
def showProgram (c : Config) (source : String) (log : List Record → IO Unit) : IO App := do
  let area := Area.ofSize 0 0 (← sizeFrom "COLUMNS" 80) (← sizeFrom "LINES" 24)
  let (width, height) := (area.width, area.height)
  let engine := Engine.ofSource source
  let machine : Machine := { engine }
  let output ← IO.getStdout
  let queue ← IO.mkRef []
  let _ ← IO.asTask (readKeys (← IO.getStdin) queue) .dedicated
  output.putStr Ansi.enterScreen
  let start ← IO.monoMsNow
  let a ← runScreen c.rate width height log output queue start 0 (.blank width height)
    { machine := machine.note (.loaded engine.program.length) }
  output.putStr Ansi.leaveScreen
  output.flush
  return a

/-- End with an error. -/
def fail (f : Failure) : IO UInt32 := do
  IO.eprintln f.line
  return 1

/-- Run a configuration: the log is opened first, then the program is loaded. -/
def runConfig (c : Config) (filter : Option String) : IO UInt32 := do
  let i : Invocation := { arguments := [], filter }
  (i.logWarnings c.logTarget).forM IO.eprintln
  match ← openLog i.logFilter c.logTarget with
  | .error f => fail (.file f)
  | .ok log =>
      match ← loadSource c with
      | .error f => fail (.file f)
      | .ok source =>
          if c.headless then
            let state := Headless.State.start source [] {}
            match ← runHeadless c.maxTicks log (← IO.getStdin) (← IO.getStdout) state with
            | .ok s =>
                log [.finished s.dispatched s.ticks]
                return 0
            | .error f => fail (.headless f)
          else
            let a ← showProgram c source log
            let engine := a.machine.engine
            if !engine.output.isEmpty then IO.println engine.output
            match engine.fault with
            | some f => fail (.fault f)
            | none => return 0

end TapeConsole.Console

open TapeConsole in
/-- The program. -/
def main (arguments : List String) : IO UInt32 := do
  match Arguments.parse arguments with
  | .ok c =>
      Console.runConfig c (← IO.getEnv Console.filterVariable)
  | .error .displayHelp =>
      IO.print helpText
      return 0
  | .error .displayVersion =>
      IO.print versionText
      return 0
  | .error f =>
      IO.eprintln ("error: " ++ f.message)
      return 2
