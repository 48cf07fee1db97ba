import TapeConsole.Engine
set_option autoImplicit false

/-!
# Views

A view is what can be seen of an engine between two ticks.  The panes of the
screen are drawn from a view and know nothing of the engine.
-/

namespace TapeConsole

/-- What can be seen of an engine. -/
structure View where
  /-- The program. -/
  program : Program := {}
  /-- The cells of the tape from left to right. -/
  cells : List Int64 := [0]
  /-- The index of the current cell. -/
  pointer : Nat := 0
  /-- The position of the last instruction carried out. -/
  ip : Option Nat := none
  /-- The characters written so far. -/
  output : String := ""
  /-- Whether a value is waited for. -/
  blocked : Bool := false
  /-- Whether the program has ended. -/
  halted : Bool := false
  /-- The speed of the step clock. -/
  speed : Float := 1.0
  /-- The width of the drawn tape. -/
  width : Float := Tape.widthOf 1
  /-- The ticks since the last instruction. -/
  acc : Nat := 0
  /-- The ticks the next instruction takes. -/
  threshold : Nat := 60
  /-- The number of instructions carried out. -/
  dispatched : Nat := 0
  /-- The bracket at which the run has ended. -/
  fault : Option Fault := none
  deriving DecidableEq, Repr, Inhabited

/-- The position to be marked in the program: that of the last instruction, if
it is inside the program. -/
def View.highlight (v : View) : Option Nat := v.ip.filter (· < v.program.length)

/-- The view of an engine. -/
def Engine.view (e : Engine) : View where
  program := e.program
  cells := e.tape.cells
  pointer := e.tape.pointer
  ip := e.ip
  output := e.output
  blocked := e.blocked
  halted := e.halted
  speed := e.clock.speed
  width := e.tape.width
  acc := e.clock.acc
  threshold := e.clock.threshold
  dispatched := e.dispatched
  fault := e.fault

end TapeConsole
