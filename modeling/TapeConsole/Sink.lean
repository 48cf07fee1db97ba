import TapeConsole.Log
set_option autoImplicit false

/-!
# Output sinks

Every character a program writes is offered to a sink.  A sink may drop it,
pass it through a channel or write its bytes.  A writer that refuses is
reported and otherwise ignored: what a sink does never reaches the engine.
-/

namespace TapeConsole

/-- The bytes a character is written as: one byte up to U+00FF, so that bytes
read in can be written back unchanged, and UTF-8 above. -/
def charBytes (c : Char) : List UInt8 :=
  if c.toNat ≤ 0xFF then [c.toNat.toUInt8] else String.utf8EncodeChar c

/-- A writer into memory.  It takes one byte at a time and refuses once it is full. -/
structure ByteWriter where
  /-- The bytes taken so far. -/
  held : Array UInt8 := #[]
  /-- How many bytes there is room for, any number if none. -/
  capacity : Option Nat := none
  deriving DecidableEq, Repr, Inhabited

namespace ByteWriter

/-- How many of `n` further bytes are taken. -/
def room (w : ByteWriter) (n : Nat) : Nat :=
  match w.capacity with
  | none => n
  | some capacity => min n (capacity - w.held.size)

/-- Write bytes until one is refused; the answer says whether all were taken. -/
def write (w : ByteWriter) (bytes : List UInt8) : ByteWriter × Bool :=
  let taken := bytes.take (w.room bytes.length)
  ({ w with held := w.held ++ taken }, taken.length = bytes.length)

/-- The reason a full writer gives. -/
def refusal : String := "writer refused"

end ByteWriter

/-- Where the characters of a run go. -/
inductive Sink where
  /-- They are dropped. -/
  | discard
  /-- They go through a channel, whose receiver has these so far. -/
  | channel (received : String)
  /-- They go into a channel that nobody receives from. -/
  | closed
  /-- Their bytes go to a writer. -/
  | bytes (writer : ByteWriter)
  deriving DecidableEq, Repr, Inhabited

namespace Sink

/-- Pass on one character; a refused write is reported. -/
def emit : Sink → Char → Sink × List Record
  | .discard, _ => (.discard, [])
  | .channel received, c => (.channel (received.push c), [])
  | .closed, _ => (.closed, [])
  | .bytes writer, c =>
      let (writer, taken) := writer.write (charBytes c)
      (.bytes writer, if taken then [] else [.refused ByteWriter.refusal])

/-- The bytes written so far, if the sink writes bytes. -/
def held : Sink → List UInt8
  | .bytes writer => writer.held.toList
  | _ => []

end Sink

end TapeConsole
