import TapeConsole.Engine
import TapeConsole.Sink
set_option autoImplicit false

/-!
# Machines

A machine is an engine whose signals are connected: characters go to a sink,
and records, also those of the sink, are kept in a log.  Besides single ticks
there are the ways of driving a machine for a while: a number of ticks, ticks
up to the next event, and ticks with a supply of values.
-/

namespace TapeConsole

/-- An engine with its sink and its log. -/
structure Machine where
  /-- The engine. -/
  engine : Engine
  /-- Where the characters go. -/
  sink : Sink := .discard
  /-- The records so far. -/
  log : Array Record := #[]
  deriving DecidableEq, Repr, Inhabited

namespace Machine

/-- Add a record to the log. -/
def note (m : Machine) (r : Record) : Machine := { m with log := m.log.push r }

/-- Pass on one signal. -/
def accept (m : Machine) : Signal → Machine
  | .note record => m.note record
  | .emit c =>
      let (sink, records) := m.sink.emit c
      { m with sink := sink, log := m.log ++ records }

/-- Put a new engine state in place and pass on the signals that led to it. -/
def advance (m : Machine) (engine : Engine) (signals : List Signal) : Machine :=
  signals.foldl accept { m with engine := engine }

/-- One tick. -/
def tick (m : Machine) : Machine × Outcome :=
  let step := m.engine.tick
  (m.advance step.engine step.signals, step.outcome)

/-- Offer a value; the answer says whether it was taken. -/
def deliver (m : Machine) (v : Int64) : Machine × Bool :=
  let (engine, taken, signals) := m.engine.deliver v
  (m.advance engine signals, taken)

/-- Start the program again.  The sink keeps what it has. -/
def reset (m : Machine) : Machine :=
  let (engine, signals) := m.engine.reset
  m.advance engine signals

/-- The same machine with an empty log. -/
def clearLog (m : Machine) : Machine := { m with log := #[] }

/-! ## Driving a machine -/

/-- A number of ticks, with their outcomes. -/
def ticks (m : Machine) (n : Nat) (outcomes : Array Outcome := #[]) : Machine × Array Outcome :=
  match n with
  | 0 => (m, outcomes)
  | n + 1 =>
      let (m, outcome) := m.tick
      m.ticks n (outcomes.push outcome)

/-- At most `bound` ticks, up to the first that is not idle: the number of ticks and
the last outcome. -/
def untilEvent (m : Machine) (bound : Nat) (made : Nat := 0) (last : Outcome := .idle) :
    Machine × Nat × Outcome :=
  match bound with
  | 0 => (m, made, last)
  | bound + 1 =>
      let (m, outcome) := m.tick
      if outcome = .idle then m.untilEvent bound (made + 1) outcome else (m, made + 1, outcome)

/-- Repeat `untilEvent` a number of times, each with at most `bound` ticks. -/
def events (m : Machine) (bound n : Nat) (made : Array (Nat × Outcome) := #[]) :
    Machine × Array (Nat × Outcome) :=
  match n with
  | 0 => (m, made)
  | n + 1 =>
      let (m, event) := m.untilEvent bound
      m.events bound n (made.push event)

/-- How a supplied run ended. -/
structure Supplied where
  machine : Machine
  /-- The number of ticks made. -/
  made : Nat
  /-- The last outcome, idle if no tick was made. -/
  last : Outcome
  /-- The values not used. -/
  rest : List Int64
  deriving DecidableEq, Repr, Inhabited

/-- At most `bound` ticks.  When a value is waited for, the next of `values` is delivered;
the run stops if there is none, and when the program ends. -/
def supply (m : Machine) (bound : Nat) (values : List Int64) (made : Nat := 0)
    (last : Outcome := .idle) : Supplied :=
  match bound with
  | 0 => ⟨m, made, last, values⟩
  | bound + 1 =>
      let proceed (m : Machine) (values : List Int64) : Supplied :=
        let (m, outcome) := m.tick
        match outcome with
        | .halted => ⟨m, made + 1, outcome, values⟩
        | .faulted _ => ⟨m, made + 1, outcome, values⟩
        | _ => m.supply bound values (made + 1) outcome
      if m.engine.blocked then
        match values with
        | [] => ⟨m, made, last, []⟩
        | v :: rest => proceed (m.deliver v).1 rest
      else proceed m values

end Machine

end TapeConsole
