import TapeConsole.Machine
set_option autoImplicit false

/-!
# Headless runs

A headless run ticks a machine without pause.  Every request for input is
answered by the next byte of a reader, and by zero when the reader is at its
end.  The characters written leave as bytes.

A reader is the sequence of what its reads give.  `Headless.step` is one pass
of the run: the limit is looked at first, then a byte is read if one is waited
for, then the machine ticks.  `Headless.runFor` makes a bounded number of
passes and gives no result if the run has not ended by then; `Headless.run`
bounds them by the tick limit, which then is never too small.
-/

namespace TapeConsole

/-- What one read of a reader gives. -/
inductive ReadEvent where
  /-- A byte. -/
  | byte (b : UInt8)
  /-- The end of the input; later reads may still give bytes. -/
  | ended
  /-- The read was interrupted and has to be repeated. -/
  | interrupted
  /-- The read failed for this reason. -/
  | failed (reason : String)
  deriving DecidableEq, Repr, Inhabited

/-- The next value of a reader and what is left of it.  Interrupted reads are
repeated, and the end of the input reads as zero. -/
def ReadEvent.next : List ReadEvent → Except String Int64 × List ReadEvent
  | [] => (.ok 0, [])
  | .byte b :: rest => (.ok (Int64.ofNat b.toNat), rest)
  | .ended :: rest => (.ok 0, rest)
  | .interrupted :: rest => ReadEvent.next rest
  | .failed reason :: rest => (.error reason, rest)

namespace Headless

/-- Why a headless run did not come to its end. -/
inductive Failure where
  /-- A bracket that had to jump has no partner. -/
  | engine (fault : Fault)
  /-- The reader failed. -/
  | input (reason : String)
  /-- The limit of ticks was reached. -/
  | tickLimit (limit : Nat)
  deriving DecidableEq, Repr, Inhabited

/-- The text a failure is reported with. -/
def Failure.message : Failure → String
  | .engine fault => fault.message
  | .input reason => "Failed to read input: " ++ reason
  | .tickLimit limit =>
      "Tick limit of " ++ toString limit ++ " reached before the program halted"

/-- What a completed run tells. -/
structure Summary where
  ticks : Nat
  dispatched : Nat
  output : String
  cells : List Int64
  pointer : Nat
  deriving DecidableEq, Repr, Inhabited

/-- A run under way. -/
structure State where
  machine : Machine
  /-- The reads still to come. -/
  reader : List ReadEvent
  /-- The ticks made; without a bound, in place of 64 bits. -/
  ticks : Nat := 0
  deriving DecidableEq, Repr, Inhabited

/-- A run at the start of a program, writing its bytes to a writer. -/
def State.start (source : String) (reader : List ReadEvent) (writer : ByteWriter) : State where
  machine := { engine := .ofSource source, sink := .bytes writer }
  reader := reader

/-- The summary of a run. -/
def State.summary (s : State) : Summary where
  ticks := s.ticks
  dispatched := s.machine.engine.dispatched
  output := s.machine.engine.output
  cells := s.machine.engine.tape.cells
  pointer := s.machine.engine.tape.pointer

/-- One pass: the state after it, with the result if the run has ended. -/
structure Pass where
  state : State
  result : Option (Except Failure Summary)
  deriving Repr, Inhabited

/-- Whether the limit does not allow another tick. -/
def atLimit (limit : Option Nat) (ticks : Nat) : Bool :=
  match limit with
  | none => false
  | some limit => limit ≤ ticks

/-- Tick once. -/
def State.tick (s : State) : Pass :=
  let (machine, outcome) := s.machine.tick
  let s := { s with machine := machine, ticks := s.ticks + 1 }
  match outcome with
  | .halted => ⟨s, some (.ok s.summary)⟩
  | .faulted fault => ⟨s, some (.error (.engine fault))⟩
  | _ => ⟨s, none⟩

/-- One pass of a run. -/
def State.step (limit : Option Nat) (s : State) : Pass :=
  if atLimit limit s.ticks then ⟨s, some (.error (.tickLimit s.ticks))⟩
  else if s.machine.engine.blocked then
    match ReadEvent.next s.reader with
    | (.ok v, reader) =>
        State.tick { s with machine := (s.machine.deliver v).1, reader := reader }
    | (.error reason, reader) => ⟨{ s with reader := reader }, some (.error (.input reason))⟩
  else s.tick

/-- At most `fuel` passes; no result if the run has not ended by then. -/
def runFor (fuel : Nat) (limit : Option Nat) (s : State) :
    Option (State × Except Failure Summary) :=
  match fuel with
  | 0 => none
  | fuel + 1 =>
      let pass := s.step limit
      match pass.result with
      | some result => some (pass.state, result)
      | none => runFor fuel limit pass.state

/-- A number of passes that no run comes to: ticks are counted in 64 bits. -/
def horizon : Nat := 0x10000000000000000

/-- Run to the end.  With a limit, one pass more than the limit allows is enough. -/
def run (limit : Option Nat) (s : State) : Option (State × Except Failure Summary) :=
  runFor (limit.getD horizon + 1) limit s

end Headless

end TapeConsole
