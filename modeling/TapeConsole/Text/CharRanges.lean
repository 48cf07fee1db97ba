set_option autoImplicit false

/-!
# Sets of characters

A property of characters that a standard lays down is a list of ranges of code
points.  The tables of this library follow the Unicode standard: those for the
borders of clusters its version 17, and those for columns its version 15.1.
-/

namespace TapeConsole

/-- A set of characters, given by ranges of code points with both ends included. -/
structure CharRanges where
  ranges : List (Nat × Nat)
  deriving DecidableEq, Repr, Inhabited

namespace CharRanges

/-- Whether a character is in one of the ranges. -/
def has (r : CharRanges) (c : Char) : Bool :=
  r.ranges.any fun (lo, hi) => lo ≤ c.toNat && c.toNat ≤ hi

/-- A character is in the set exactly if some range has it between its ends. -/
theorem has_iff (r : CharRanges) (c : Char) :
    r.has c = true ↔ ∃ p ∈ r.ranges, p.1 ≤ c.toNat ∧ c.toNat ≤ p.2 := by
  simp [has, List.any_eq_true]

/-- Whether a code point is in one of the ranges. -/
def hasCode (r : CharRanges) (code : Nat) : Bool :=
  r.ranges.any fun (lo, hi) => lo ≤ code && code ≤ hi

/-- The code points at which a range starts or has ended. -/
def borders (r : CharRanges) : List Nat := r.ranges.flatMap fun (lo, hi) => [lo, hi + 1]

/-- One more range below those of a list, as one range with the first of them if they touch. -/
def consRange (range : Nat × Nat) : List (Nat × Nat) → List (Nat × Nat)
  | [] => [range]
  | next :: rest =>
      if range.2 + 1 = next.1 then (range.1, next.2) :: rest else range :: next :: rest

/-- The ranges between borders in order that begin with a code point of a set. -/
def between (member : Nat → Bool) : List Nat → List (Nat × Nat)
  | [] => []
  | [_] => []
  | lo :: next :: rest =>
      if lo < next && member lo then consRange (lo, next - 1) (between member (next :: rest))
      else between member (next :: rest)

/-- The set of which membership in two sets decides, in ranges in order that do not touch. -/
def combine (decide : Bool → Bool → Bool) (a b : CharRanges) : CharRanges :=
  let borders := (0 :: 0x110000 :: (a.borders ++ b.borders)).mergeSort
  ⟨between (fun code => decide (a.hasCode code) (b.hasCode code)) borders⟩

/-- The characters of either set. -/
def union (a b : CharRanges) : CharRanges := combine (· || ·) a b

/-- All characters that are not in a set. -/
def complement (a : CharRanges) : CharRanges := combine (fun x _ => !x) a ⟨[]⟩

end CharRanges

end TapeConsole
