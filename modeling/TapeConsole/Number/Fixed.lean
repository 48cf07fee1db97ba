import TapeConsole.Number.Binary64
set_option autoImplicit false

/-!
# Decimal text with a fixed number of places

`Binary64.fixed` writes the exact value of a double rounded to a number of
decimal places, a tie going to the even neighbour.  The sign of zero is kept.
-/

namespace TapeConsole

/-- The text `digits` filled up with zeros on the left to `width` characters. -/
def zeroPadded (width : Nat) (digits : String) : String :=
  String.ofList (List.replicate (width - digits.length) '0') ++ digits

namespace Binary64

/-- The digits of `units / 10 ^ places`. -/
def placesText (places units : Nat) : String :=
  if places = 0 then toString units
  else
    toString (units / Nat.pow 10 places) ++ "." ++
      zeroPadded places (toString (units % Nat.pow 10 places))

/-- The text of a value with `places` decimal places. -/
def fixed (places : Nat) : Binary64 → String
  | .nan => "NaN"
  | .infinite negative => (if negative then "-" else "") ++ "inf"
  | .finite negative mantissa exponent =>
      let (num, den) := fraction mantissa exponent
      (if negative then "-" else "") ++
        placesText places (roundDiv .toEven (num * Nat.pow 10 places) den)

end Binary64

/-- The text of a double with `places` decimal places. -/
def fixedText (places : Nat) (x : Float) : String := (Binary64.ofFloat x).fixed places

end TapeConsole
