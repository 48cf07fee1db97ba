import TapeConsole.Number.Rounding
set_option autoImplicit false

/-!
# The exact value of a double

A 64-bit binary floating-point number is a sign and a natural number times a
power of two, or it is infinite or no number at all.  `Binary64.ofFloat` reads
that off the bits, so that whole numbers and decimal digits can be taken from
the exact value in integer arithmetic.
-/

namespace TapeConsole

/-- What the bits of a double stand for. -/
inductive Binary64 where
  /-- No number. -/
  | nan
  /-- An infinity with its sign. -/
  | infinite (negative : Bool)
  /-- The number `mantissa * 2 ^ exponent` with its sign. -/
  | finite (negative : Bool) (mantissa : Nat) (exponent : Int)
  deriving DecidableEq, Repr, Inhabited

namespace Binary64

/-- The value written by these bits: one of sign, eleven of exponent, fifty-two
of fraction. -/
def ofBits (bits : Nat) : Binary64 :=
  let negative : Bool := bits >>> 63 % 2 = 1
  let scale : Nat := bits >>> 52 % (1 <<< 11)
  let fraction : Nat := bits % (1 <<< 52)
  if scale = 2047 then
    if fraction = 0 then .infinite negative else .nan
  else if scale = 0 then .finite negative fraction (-1074)
  else .finite negative ((1 <<< 52) + fraction) ((scale : Int) - 1075)

/-- The exact value of a double. -/
def ofFloat (x : Float) : Binary64 := ofBits x.toBits.toNat

/-- The largest number of 64 bits. -/
def maxWord : Nat := 0xFFFFFFFFFFFFFFFF

/-- The nonnegative number as a fraction, numerator and denominator. -/
def fraction (mantissa : Nat) : Int → Nat × Nat
  | .ofNat e => (mantissa <<< e, 1)
  | .negSucc e => (mantissa, 1 <<< (e + 1))

/-- The nearest number of 64 bits, a half going away from zero; numbers out of
range go to the nearer end, and what is no number to zero. -/
def nearestWord : Binary64 → Nat
  | .nan => 0
  | .infinite negative => if negative then 0 else maxWord
  | .finite negative mantissa exponent =>
      if negative then 0
      else
        let (num, den) := fraction mantissa exponent
        min maxWord (roundDiv .up num den)

/-- The number of 64 bits next below; numbers out of range go to the nearer end,
and what is no number to zero. -/
def floorWord : Binary64 → Nat
  | .nan => 0
  | .infinite negative => if negative then 0 else maxWord
  | .finite negative mantissa exponent =>
      if negative then 0
      else
        let (num, den) := fraction mantissa exponent
        min maxWord (num / den)

end Binary64

end TapeConsole
