import TapeConsole.Clock
import TapeConsole.Log
import TapeConsole.Tape
set_option autoImplicit false

/-!
# The engine

An engine runs a program tick by tick.  A tick counts on the step clock, and
when an instruction is due it carries out exactly one.  An input instruction
blocks the engine until a value is delivered, a bracket without partner ends
the run with a fault, and the engine has halted once it is past the last
instruction.

A tick, a delivery and a reset are pure functions.  What they report and what
they write are `Signal`s, in order, which the caller passes on to a log and to
an output sink; the engine never depends on what becomes of them.
-/

namespace TapeConsole

/-- Something that leaves the engine. -/
inductive Signal where
  /-- A record for the log. -/
  | note (record : Record)
  /-- A character for the output. -/
  | emit (character : Char)
  deriving DecidableEq, Repr, Inhabited

/-- What a tick did. -/
inductive Outcome where
  /-- No instruction was due. -/
  | idle
  /-- The engine waits for a value. -/
  | blocked
  /-- The program has ended. -/
  | halted
  /-- An instruction was carried out. -/
  | dispatched (instruction : Instruction)
  /-- The run has ended at a bracket without partner. -/
  | faulted (fault : Fault)
  deriving DecidableEq, Repr, Inhabited

/-- The character of a cell; a value that is no character becomes U+FFFD. -/
def cellChar (v : Int64) : Char :=
  if h : 0 ≤ v.toInt ∧ v.toInt.toNat.isValidChar then Char.ofNatAux v.toInt.toNat h.2
  else Char.ofNat 0xFFFD

/-- The state of a run. -/
structure Engine where
  /-- The program that is run. -/
  program : Program
  /-- The partners of brackets found so far. -/
  memo : JumpMemo
  /-- The tape. -/
  tape : Tape := .blank
  /-- The position of the last instruction carried out, none before the first. -/
  ip : Option Nat := none
  /-- The step clock. -/
  clock : Clock := {}
  /-- Whether a value is waited for. -/
  blocked : Bool := false
  /-- The characters written so far. -/
  output : String := ""
  /-- The number of instructions carried out; without a bound, in place of 64 bits. -/
  dispatched : Nat := 0
  /-- The bracket at which the run has ended, if it has. -/
  fault : Option Fault := none
  deriving DecidableEq, Repr, Inhabited

namespace Engine

/-- An engine at the start of a program. -/
def load (p : Program) : Engine := { program := p, memo := .blank p.length }

/-- An engine at the start of the program in a source text. -/
def ofSource (source : String) : Engine := load (.parse source)

/-- Whether the program has ended. -/
def halted (e : Engine) : Bool :=
  match e.ip with
  | none => false
  | some i => e.program.length ≤ i

/-- The instruction carried out last, if the engine is at one. -/
def instruction? (e : Engine) : Option Instruction := e.ip.bind e.program.get?

/-- Whether ticks change nothing before a value is delivered or the engine is reset, though
there has been no fault. -/
def isPaused (e : Engine) : Bool := e.halted || e.blocked

/-- The result of a tick: the new state, what was done, and what left the engine. -/
structure Step where
  engine : Engine
  outcome : Outcome
  signals : List Signal
  deriving DecidableEq, Repr, Inhabited

/-- Go from the bracket at `source` to its partner; the next instruction is the one after it. -/
def jump (e : Engine) (i : Instruction) (source : Nat) (direction : Direction) : Step :=
  match e.memo.resolve e.program source direction with
  | .ok found =>
      ⟨{ e with ip := some found.target, memo := found.memo }, .dispatched i,
        [.note (.jump source found.target found.remembered)]⟩
  | .error fault =>
      ⟨{ e with fault := some fault }, .faulted fault, [.note (.fault fault)]⟩

/-- Carry out the instruction `i` at `position`. -/
def perform (e : Engine) (i : Instruction) (position : Nat) : Step :=
  match i with
  | .right => ⟨{ e with tape := e.tape.right }, .dispatched i, []⟩
  | .left => ⟨{ e with tape := e.tape.left }, .dispatched i, []⟩
  | .increment => ⟨{ e with tape := e.tape.increment }, .dispatched i, []⟩
  | .decrement => ⟨{ e with tape := e.tape.decrement }, .dispatched i, []⟩
  | .output =>
      let c := cellChar e.tape.read
      ⟨{ e with output := e.output.push c }, .dispatched i, [.emit c]⟩
  | .input => ⟨{ e with blocked := true }, .dispatched i, []⟩
  | .loopStart =>
      if e.tape.read = 0 then e.jump i position .forward else ⟨e, .dispatched i, []⟩
  | .loopEnd =>
      if e.tape.read = 0 then ⟨e, .dispatched i, []⟩ else e.jump i position .backward

/-- The position of the instruction that is due next. -/
def nextPosition (e : Engine) : Nat :=
  match e.ip with
  | none => 0
  | some i => i + 1

/-- Move on to the next instruction and carry it out, or halt past the last one. -/
def dispatch (e : Engine) : Step :=
  let position := e.nextPosition
  match e.program.get? position with
  | none =>
      ⟨{ e with ip := some position }, .halted, [.note (.halted e.dispatched e.clock.speed)]⟩
  | some i =>
      let started :=
        { e with
          ip := some position
          clock := e.clock.accelerate
          dispatched := e.dispatched + 1 }
      let step := started.perform i position
      { step with signals := .note (.dispatch started.dispatched position i) :: step.signals }

/-- One tick.  A run that has ended stays as it is; otherwise the tick is
counted, and if an instruction is due it is carried out and counting starts
again. -/
def tick (e : Engine) : Step :=
  match e.fault with
  | some fault => ⟨e, .faulted fault, []⟩
  | none =>
      if e.halted then ⟨e, .halted, []⟩
      else
        let counted := { e with clock := e.clock.count }
        if counted.blocked then ⟨counted, .blocked, []⟩
        else if counted.clock.isDue then
          let step := counted.dispatch
          { step with engine := { step.engine with clock := step.engine.clock.restart } }
        else ⟨counted, .idle, []⟩

/-- Offer a value.  It is stored if the engine waits for one, and left alone otherwise;
the answer says which. -/
def deliver (e : Engine) (v : Int64) : Engine × Bool × List Signal :=
  if e.blocked then
    ({ e with tape := e.tape.write v, blocked := false }, true, [.note (.delivered v)])
  else (e, false, [])

/-- Start the program again.  Only the partners found so far are kept. -/
def reset (e : Engine) : Engine × List Signal :=
  ({ program := e.program, memo := e.memo }, [.note .reset])

end Engine

end TapeConsole
