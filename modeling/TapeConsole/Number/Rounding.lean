set_option autoImplicit false

/-!
# Rounding a quotient

`roundDiv` gives the whole number nearest to a quotient of natural numbers; a
`Tie` says where a quotient goes that lies halfway between two of them.
-/

namespace TapeConsole

/-- Where a number halfway between two whole numbers is rounded to. -/
inductive Tie where
  /-- To the larger of the two. -/
  | up
  /-- To the even one. -/
  | toEven
  deriving DecidableEq, Repr, Inhabited

/-- Whether the tie after a quotient with this whole part goes up. -/
def Tie.goesUp : Tie → Nat → Bool
  | .up, _ => true
  | .toEven, q => q % 2 = 1

/-- The whole number nearest to `num / den`. -/
def roundDiv (tie : Tie) (num den : Nat) : Nat :=
  let q := num / den
  let r := num % den
  if 2 * r < den then q
  else if den < 2 * r then q + 1
  else if tie.goesUp q then q + 1 else q

/-- With ties going up, the result is at most half a unit above the quotient and less than half a
unit below it. -/
theorem roundDiv_up_near (num : Nat) {den : Nat} (h : 0 < den) :
    2 * (roundDiv .up num den * den) ≤ 2 * num + den ∧
      2 * num < 2 * (roundDiv .up num den * den) + den := by
  have hparts : num / den * den + num % den = num := Nat.div_add_mod' num den
  have hless : num % den < den := Nat.mod_lt num h
  by_cases hdown : 2 * (num % den) < den
  · have hround : roundDiv .up num den = num / den := by simp only [roundDiv, if_pos hdown]
    rw [hround]
    omega
  · have hround : roundDiv .up num den = num / den + 1 := by
      simp only [roundDiv, if_neg hdown, Tie.goesUp, if_true, ite_self]
    rw [hround, Nat.succ_mul (num / den)]
    omega

end TapeConsole
