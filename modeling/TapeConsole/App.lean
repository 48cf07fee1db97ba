import TapeConsole.Key
import TapeConsole.Pane.Output
import TapeConsole.Pane.Program
import TapeConsole.Pane.Status
import TapeConsole.Pane.Tape
import TapeConsole.Screen.Display
import TapeConsole.Ticker
set_option autoImplicit false

/-!
# The application

The application joins a machine, the tick thread that drives it and the
keyboard, and draws the four panes.  A frame first brings the status message up
to date and then draws.
-/

namespace TapeConsole

/-- The application between two events. -/
structure App where
  /-- The machine that is shown. -/
  machine : Machine
  /-- The thread that ticks it. -/
  ticker : Ticker := .start
  /-- Whether the user has asked to leave. -/
  quit : Bool := false
  /-- The message in the status bar. -/
  status : String := "Running"
  deriving DecidableEq, Repr, Inhabited

namespace App

/-- What is shown. -/
def view (a : App) : View := a.machine.engine.view

/-! ## Keys -/

/-- Reset, first step: the machine starts again. -/
def resetMachine (a : App) : App := { a with machine := a.machine.reset }

/-- Reset, second step: a new tick thread is started if the old one has left. -/
def reviveTicker (a : App) : App :=
  if a.ticker.isRunning then a else { a with ticker := .start }

/-- Start the run again. -/
def reset (a : App) : App := { a.resetMachine.reviveTicker with status := "Reset" }

/-- Offer the value of a key to the run.  A `q` that is not taken leaves the program. -/
def offer (a : App) (k : Key) (v : Int64) : App :=
  let (machine, taken) := a.machine.deliver v
  if taken then { a with machine := machine, status := "Read " ++ toString v.toInt }
  else { a with machine := machine, quit := a.quit || k.code = .char 'q' }

/-- Do what a key asks for. -/
def press (a : App) (k : Key) : App :=
  match KeyAction.ofKey k with
  | .quit => { a with quit := true }
  | .reset => a.reset
  | .input v => a.offer k v
  | .ignore => a

/-- Take notice of an event of the terminal. -/
def handle (a : App) : TerminalEvent → App
  | .press k => a.press k
  | .other => a

/-! ## Ticks -/

/-- Let the tick thread go once around. -/
def tickRound (a : App) : App :=
  let (ticker, machine) := a.ticker.round a.machine
  { a with ticker := ticker, machine := machine }

/-- Let the tick thread run until the machine is paused. -/
def untilPaused (a : App) (bound : Nat) : App :=
  let (ticker, machine) := a.ticker.untilPaused a.machine bound
  { a with ticker := ticker, machine := machine }

/-- Ticks that do not come from the tick thread. -/
def outsideTicks (a : App) (n : Nat) : App := { a with machine := (a.machine.ticks n).1 }

/-! ## Frames -/

/-- Bring the status message up to date.  A running program leaves it as it is. -/
def updateStatus (a : App) : App :=
  let v := a.view
  match v.fault with
  | some fault => { a with status := fault.message }
  | none =>
      if v.halted then
        { a with status := "Halted after " ++ toString v.dispatched ++ " steps" }
      else if v.blocked then { a with status := "Waiting for a key" }
      else a

/-- The rows of the panes, from the top. -/
structure Rows where
  program : Nat
  tape : Nat
  output : Nat
  status : Nat
  deriving DecidableEq, Repr, Inhabited

/-- How a screen is divided.  The status bar has one row, the output six and the tape at
least seven; the program has three tenths of the rows as far as that leaves enough.  On a
small screen the program goes first and then the output gets smaller. -/
def rowsFor (height : Nat) : Rows :=
  let status := min 1 height
  let left := height - status
  if 13 ≤ left then
    let program := min ((3 * height + 5) / 10) (left - 13)
    { program, tape := left - 6 - program, output := 6, status }
  else
    let tape := min 7 left
    { program := 0, tape, output := left - tape, status }

/-- Draw the panes. -/
def draw (a : App) (width height : Nat) : Screen :=
  let v := a.view
  let rows := rowsFor height
  let area (y height : Nat) : Area := ⟨0, y, width, height⟩
  let programArea := area 0 rows.program
  let tapeArea := area programArea.bottom rows.tape
  let outputArea := area tapeArea.bottom rows.output
  let statusArea := area outputArea.bottom rows.status
  let s := Screen.blank width height
  let s := s.draw programArea (ProgramPane.panel v programArea)
  let s := s.draw tapeArea (TapePane.panel v tapeArea)
  let s := s.draw outputArea (OutputPane.panel v.output outputArea)
  StatusBar.draw s statusArea v a.status

/-! ## Sessions -/

/-- One thing that happens in a session. -/
inductive Happening where
  /-- Ticks that do not come from the tick thread. -/
  | ticks (n : Nat)
  /-- An event of the terminal. -/
  | terminal (event : TerminalEvent)
  deriving DecidableEq, Repr, Inhabited

/-- The application at the first frame of a session: the tick thread has been once around. -/
def opened (m : Machine) : App := (App.tickRound { machine := m }).updateStatus

/-- What happens between two frames.  A tick thread started on the way goes once around. -/
def happen (a : App) : Happening → App
  | .ticks n => (a.outsideTicks n).updateStatus
  | .terminal event =>
      let next := a.handle event
      let next := if a.ticker.isRunning then next
        else if next.ticker.isRunning then next.tickRound else next
      next.updateStatus

/-- The application at each frame of a session, up to the one after which it leaves. -/
def frames (a : App) : List Happening → List App
  | [] => [a]
  | h :: rest => if a.quit then [a] else a :: (a.happen h).frames rest

/-- What a terminal shows after each of these frames. -/
def shownOn (d : Display) : List App → List (App × Screen)
  | [] => []
  | a :: rest =>
      let d := d.update (a.draw d.frame.width d.frame.height)
      (a, d.shown) :: shownOn d rest

/-- A session on a terminal of this size: the application and the screen at each frame. -/
def session (m : Machine) (width height : Nat) (happenings : List Happening) :
    List (App × Screen) :=
  let area := Area.ofSize 0 0 width height
  shownOn (.blank area.width area.height) ((opened m).frames happenings)

end App

end TapeConsole
