import Mathlib.Algebra.Order.Field.Rat
import Mathlib.Tactic.Linarith
import TapeConsole.Clock
set_option autoImplicit false

/-!
# The rounding of thresholds

The threshold of the clock is a double that is made a word of 64 bits.
`Binary64.RoundsTo` says which word that is, in terms of the rational number
`mantissa * 2 ^ exponent` and without reference to quotients or shifts: the nearest
one, where a half goes up and what is out of range goes to the nearer end.
`Binary64.nearestWord_eq_iff` says that this word is the one taken.
-/

namespace TapeConsole

namespace Binary64

/-- The word of 64 bits that a double is rounded to. -/
inductive RoundsTo : Binary64 → Nat → Prop
  | nan : RoundsTo .nan 0
  | negativeInfinite : RoundsTo (.infinite true) 0
  | positiveInfinite : RoundsTo (.infinite false) maxWord
  | negative (mantissa : Nat) (exponent : Int) : RoundsTo (.finite true mantissa exponent) 0
  /-- A number less than half a unit below the word, or at most half a unit above it. -/
  | nearest {mantissa n : Nat} {exponent : Int} (hword : n ≤ maxWord)
      (hbelow : (n : ℚ) ≤ mantissa * 2 ^ exponent + 1 / 2)
      (habove : mantissa * 2 ^ exponent < (n : ℚ) + 1 / 2) :
      RoundsTo (.finite false mantissa exponent) n
  /-- A number above all words. -/
  | above {mantissa : Nat} {exponent : Int}
      (habove : (maxWord : ℚ) ≤ mantissa * 2 ^ exponent) :
      RoundsTo (.finite false mantissa exponent) maxWord

/-- The fraction is the number it is made from. -/
theorem fraction_eq (mantissa : Nat) (exponent : Int) :
    0 < (fraction mantissa exponent).2 ∧
      ((fraction mantissa exponent).1 : ℚ) =
        mantissa * 2 ^ exponent * (fraction mantissa exponent).2 := by
  cases exponent with
  | ofNat e =>
      refine ⟨Nat.one_pos, ?_⟩
      simp only [fraction, Nat.shiftLeft_eq, Int.ofNat_eq_natCast, zpow_natCast]
      push_cast
      rw [mul_one]
  | negSucc e =>
      have hpow : ((2 : ℚ) ^ (e + 1)) ≠ 0 := pow_ne_zero _ two_ne_zero
      refine ⟨?_, ?_⟩
      · simp only [fraction, Nat.shiftLeft_eq, Nat.one_mul]
        exact Nat.two_pow_pos (e + 1)
      · simp only [fraction, Nat.shiftLeft_eq, Nat.one_mul, zpow_negSucc]
        push_cast
        rw [mul_assoc, inv_mul_cancel₀ hpow, mul_one]

/-- The whole number that a nonnegative number is rounded to. -/
def rounded (mantissa : Nat) (exponent : Int) : Nat :=
  roundDiv .up (fraction mantissa exponent).1 (fraction mantissa exponent).2

theorem nearestWord_positive (mantissa : Nat) (exponent : Int) :
    (finite false mantissa exponent).nearestWord = min maxWord (rounded mantissa exponent) := rfl

/-- It is the nearest one, a half going up. -/
theorem rounded_near (mantissa : Nat) (exponent : Int) :
    (rounded mantissa exponent : ℚ) ≤ mantissa * 2 ^ exponent + 1 / 2 ∧
      mantissa * 2 ^ exponent < (rounded mantissa exponent : ℚ) + 1 / 2 := by
  obtain ⟨hden, hvalue⟩ := fraction_eq mantissa exponent
  unfold rounded
  rcases hfraction : fraction mantissa exponent with ⟨num, den⟩
  rw [hfraction] at hden hvalue
  obtain ⟨hbelow, habove⟩ := roundDiv_up_near num hden
  have hpos : (0 : ℚ) < den := Nat.cast_pos.mpr hden
  have hbelow' : 2 * ((roundDiv .up num den : ℚ) * den) ≤ 2 * num + den := by exact_mod_cast hbelow
  have habove' : 2 * (num : ℚ) < 2 * ((roundDiv .up num den : ℚ) * den) + den := by
    exact_mod_cast habove
  rw [hvalue] at hbelow' habove'
  constructor
  · refine le_of_mul_le_mul_right ?_ hpos
    linarith
  · refine lt_of_mul_lt_mul_right ?_ hpos.le
    linarith

/-- Only one number is less than half a unit above and at most half a unit below a rational. -/
theorem nat_eq_of_near {x : ℚ} {m n : Nat} (hm : (m : ℚ) ≤ x + 1 / 2 ∧ x < (m : ℚ) + 1 / 2)
    (hn : (n : ℚ) ≤ x + 1 / 2 ∧ x < (n : ℚ) + 1 / 2) : m = n := by
  have hlt : (m : ℚ) < n + 1 := by linarith [hm.1, hn.2]
  have hgt : (n : ℚ) < m + 1 := by linarith [hn.1, hm.2]
  have hlt' : m < n + 1 := by exact_mod_cast hlt
  have hgt' : n < m + 1 := by exact_mod_cast hgt
  omega

/-- The word taken for a double is the one it is rounded to. -/
theorem nearestWord_eq_iff (x : Binary64) (n : Nat) : x.nearestWord = n ↔ x.RoundsTo n := by
  constructor
  · rintro rfl
    cases x with
    | nan => exact .nan
    | infinite negative =>
        cases negative with
        | false => exact .positiveInfinite
        | true => exact .negativeInfinite
    | finite negative mantissa exponent =>
        cases negative with
        | true => exact .negative mantissa exponent
        | false =>
            obtain ⟨hbelow, habove⟩ := rounded_near mantissa exponent
            rw [nearestWord_positive]
            rcases Nat.lt_or_ge maxWord (rounded mantissa exponent) with hlarge | hword
            · have hlarge' : (maxWord : ℚ) + 1 ≤ rounded mantissa exponent := by
                exact_mod_cast hlarge
              rw [Nat.min_eq_left hlarge.le]
              exact .above (by linarith)
            · rw [Nat.min_eq_right hword]
              exact .nearest hword hbelow habove
  · intro h
    cases h with
    | nan => rfl
    | negativeInfinite => rfl
    | positiveInfinite => rfl
    | negative => rfl
    | nearest hword hbelow habove =>
        rw [nearestWord_positive, nat_eq_of_near (rounded_near _ _) ⟨hbelow, habove⟩,
          Nat.min_eq_right hword]
    | @above mantissa exponent habove =>
        have hword : maxWord < rounded mantissa exponent + 1 := by
          have hnear := (rounded_near mantissa exponent).2
          have hlt : (maxWord : ℚ) < rounded mantissa exponent + 1 := by linarith
          exact_mod_cast hlt
        rw [nearestWord_positive, Nat.min_eq_left (Nat.le_of_lt_succ hword)]

end Binary64

end TapeConsole
