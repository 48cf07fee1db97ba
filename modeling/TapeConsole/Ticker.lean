import TapeConsole.Machine
set_option autoImplicit false

/-!
# The tick thread

The screen is kept alive by a thread that ticks the machine at a fixed rate.
It goes round in atomic steps: look at the stop flag, tick, and after a fault
report it and leave.  A `Ticker` is the thread between two of these steps, so
that it can be interleaved with anything else that uses the machine.
-/

namespace TapeConsole

/-- What a tick thread does next. -/
inductive Ticker.Phase where
  /-- Look at the stop flag. -/
  | checking
  /-- Tick the machine. -/
  | ticking
  /-- Report the fault it met, and leave. -/
  | reporting (fault : Fault)
  /-- Nothing any more. -/
  | exited
  deriving DecidableEq, Repr, Inhabited

/-- A tick thread between two steps. -/
structure Ticker where
  /-- Whether the thread has been asked to leave. -/
  stop : Bool := false
  /-- What it does next. -/
  phase : Ticker.Phase := .checking
  deriving DecidableEq, Repr, Inhabited

namespace Ticker

/-- A new thread. -/
def start : Ticker := {}

/-- Whether the thread has not left yet. -/
def isRunning (t : Ticker) : Bool := t.phase ≠ .exited

/-- One atomic step. -/
def step (t : Ticker) (m : Machine) : Ticker × Machine :=
  match t.phase with
  | .checking => ({ t with phase := if t.stop then .exited else .ticking }, m)
  | .ticking =>
      let (m, outcome) := m.tick
      match outcome with
      | .faulted fault => ({ t with phase := .reporting fault }, m)
      | _ => ({ t with phase := .checking }, m)
  | .reporting fault => ({ t with phase := .exited }, m.note (.tickerStopped fault))
  | .exited => (t, m)

/-- A number of atomic steps. -/
def steps (t : Ticker) (m : Machine) : Nat → Ticker × Machine
  | 0 => (t, m)
  | n + 1 =>
      let (t, m) := t.step m
      t.steps m n

/-- Once around for a thread that is about to look at the stop flag: one tick, and after a
fault the report as well. -/
def round (t : Ticker) (m : Machine) : Ticker × Machine :=
  let (t, m) := t.steps m 2
  match t.phase with
  | .reporting _ => t.step m
  | _ => (t, m)

/-- Ask the thread to leave and wait until it has. -/
def shutdown (t : Ticker) (m : Machine) : Ticker × Machine :=
  Ticker.steps { t with stop := true } m 3

/-- Let the thread go round until the machine is paused or the thread has left, at most
`bound` times. -/
def untilPaused (t : Ticker) (m : Machine) (bound : Nat) : Ticker × Machine :=
  match bound with
  | 0 => (t, m)
  | bound + 1 =>
      if m.engine.isPaused || !t.isRunning then (t, m)
      else
        let (t, m) := t.round m
        t.untilPaused m bound

/-- Run a machine on a tick thread, delivering the next of `values` whenever it waits for
one: the thread, and the machine at each stop. -/
def session (t : Ticker) (m : Machine) (bound : Nat) (values : List Int64) :
    Ticker × List Machine :=
  let (t, m) := t.untilPaused m bound
  match values with
  | [] => (t, [m])
  | v :: rest =>
      if m.engine.blocked then
        let (t, stops) := t.session (m.deliver v).1 bound rest
        (t, m :: stops)
      else (t, [m])

end Ticker

end TapeConsole
