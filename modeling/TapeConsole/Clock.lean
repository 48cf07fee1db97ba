import TapeConsole.Number.Binary64
set_option autoImplicit false

/-!
# The step clock

An instruction is due after a number of ticks, the threshold.  It is sixty at
first; every instruction makes the clock five percent faster and the threshold
smaller.  A clock counts the ticks since the last instruction in `acc`.

The counts of ticks and instructions, here and in what follows, are natural
numbers without a bound.  They stand for words of 64 bits: a count that adds one
per event takes more than half a million years to leave them at a million events
per second.
-/

namespace TapeConsole

/-- The state of the step clock. -/
structure Clock where
  /-- How many times as fast as at the start the clock runs. -/
  speed : Float := 1.0
  /-- The ticks since the last instruction; without a bound, in place of 64 bits. -/
  acc : Nat := 0
  deriving DecidableEq, Repr, Inhabited

namespace Clock

/-- The number of ticks the first instruction takes. -/
def baseTicks : Float := 60.0

/-- What one instruction multiplies the speed by. -/
def acceleration : Float := 1.05

/-- The threshold at a speed: the base divided by the speed, rounded to the
nearest whole number, a half away from zero, and kept within 64 bits. -/
def thresholdAt (speed : Float) : Nat := (Binary64.ofFloat (baseTicks / speed)).nearestWord

/-- The number of ticks the next instruction takes. -/
def threshold (c : Clock) : Nat := thresholdAt c.speed

/-- Count one tick. -/
def count (c : Clock) : Clock := { c with acc := c.acc + 1 }

/-- Whether enough ticks have been counted for the next instruction. -/
def isDue (c : Clock) : Bool := c.threshold ≤ c.acc

/-- Run faster from now on. -/
def accelerate (c : Clock) : Clock := { c with speed := c.speed * acceleration }

/-- Start counting again. -/
def restart (c : Clock) : Clock := { c with acc := 0 }

end Clock

end TapeConsole
