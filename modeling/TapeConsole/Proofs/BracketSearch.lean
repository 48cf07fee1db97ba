import TapeConsole.Proofs.Nesting
set_option autoImplicit false

/-!
# The search for a partner, round by round

`Program.partner` is defined on the instructions that a search walks over.  Walked
with an index, the same search is a loop: look at one position, stop at the
partner, and otherwise go on by one position in the direction of the search.
`Search.run_start` says that the loop ends from every position, whether or not
there is a bracket, and that its answer is the partner.

Together with `Nesting` this says what a search accepts: a bracket finds its
partner exactly across a balanced list.
-/

namespace TapeConsole

open Direction

/-! ## The answer of a search -/

namespace Program

theorem toOption_partner_forward (p : Program) (start : Nat) :
    (p.partner start .forward).toOption =
      (distance? .loopEnd 0 0 (p.toList.drop start)).map (start + ·) := by
  unfold partner
  simp only [target]
  cases distance? .loopEnd 0 0 (p.toList.drop start) <;> rfl

theorem toOption_partner_backward {p : Program} {start : Nat} (h : start < p.length) :
    (p.partner start .backward).toOption =
      (distance? .loopStart 0 0 (p.toList.take (start + 1)).reverse).map (start - ·) := by
  unfold partner
  simp only [target, if_pos h]
  cases distance? .loopStart 0 0 (p.toList.take (start + 1)).reverse <;> rfl

theorem toOption_partner_of_outside {p : Program} {start : Nat} (h : ¬start < p.length) :
    (p.partner start .backward).toOption = none := by
  unfold partner
  simp only [if_neg h]
  rfl

end Program

/-! ## The loop -/

/-- The position after this one; going backward there is none after the first. -/
def Direction.next? : Direction → Nat → Option Nat
  | .forward, position => some (position + 1)
  | .backward, 0 => none
  | .backward, position + 1 => some position

/-- A search under way. -/
structure Search where
  /-- The position looked at next. -/
  position : Nat
  /-- The depth of nesting so far. -/
  depth : Int
  deriving DecidableEq, Repr, Inhabited

namespace Search

/-- What one round of a search comes to. -/
inductive Round where
  /-- The partner is here. -/
  | found (position : Nat)
  /-- The program ends before the partner is found. -/
  | lost
  /-- The search goes on. -/
  | onward (s : Search)
  deriving DecidableEq, Repr, Inhabited

/-- Look at one position. -/
def round (p : Program) (d : Direction) (s : Search) : Round :=
  match p.get? s.position with
  | none => .lost
  | some i =>
      if s.depth + i.nesting = 0 ∧ i = d.target then .found s.position
      else
        match d.next? s.position with
        | none => .lost
        | some position => .onward ⟨position, s.depth + i.nesting⟩

/-- At most `rounds` rounds: the position found, if there is one; no answer if the search has
not ended by then. -/
def run (p : Program) (d : Direction) : (rounds : Nat) → Search → Option (Option Nat)
  | 0, _ => none
  | rounds + 1, s =>
      match s.round p d with
      | .found position => some (some position)
      | .lost => some none
      | .onward s => run p d rounds s

theorem run_of_lost {p : Program} {d : Direction} {s : Search} (h : s.round p d = .lost)
    (rounds : Nat) : run p d (rounds + 1) s = some none := by
  rw [run, h]

/-- The search stops at the partner. -/
theorem run_of_match {p : Program} {d : Direction} {s : Search} {i : Instruction}
    (hget : p.get? s.position = some i) (h : s.depth + i.nesting = 0 ∧ i = d.target)
    (rounds : Nat) : run p d (rounds + 1) s = some (some s.position) := by
  have hround : s.round p d = .found s.position := by
    unfold round
    rw [hget]
    exact if_pos h
  rw [run, hround]

/-- At every other instruction the search goes on, if there is a position to go on with. -/
theorem run_of_no_match {p : Program} {d : Direction} {s : Search} {i : Instruction}
    (hget : p.get? s.position = some i) (h : ¬(s.depth + i.nesting = 0 ∧ i = d.target))
    (rounds : Nat) :
    run p d (rounds + 1) s =
      match d.next? s.position with
      | none => some none
      | some position => run p d rounds ⟨position, s.depth + i.nesting⟩ := by
  have hround : s.round p d =
      match d.next? s.position with
      | none => .lost
      | some position => .onward ⟨position, s.depth + i.nesting⟩ := by
    unfold round
    rw [hget]
    exact if_neg h
  rw [run, hround]
  cases d.next? s.position <;> rfl

/-! ## It ends -/

/-- Going forward, one round for each instruction ahead and one more are enough. -/
theorem run_forward {p : Program} {start : Nat} (ahead : List Instruction) :
    ∀ {s : Search} {walked : Nat}, p.toList.drop s.position = ahead →
      s.position = start + walked →
      run p .forward (ahead.length + 1) s =
        some ((distance? .loopEnd s.depth walked ahead).map (start + ·)) := by
  induction ahead with
  | nil =>
      intro s walked hahead _
      have hnone : p.get? s.position = none := by
        rw [Program.get?_eq_getElem?, List.getElem?_eq_none_iff]
        exact List.drop_eq_nil_iff.mp hahead
      exact run_of_lost (by rw [round, hnone]) _
  | cons i rest ih =>
      intro s walked hahead hposition
      have hget : p.get? s.position = some i := by
        rw [Program.get?_eq_getElem?, ← List.head?_drop, hahead]
        rfl
      have hrest : p.toList.drop (s.position + 1) = rest := by
        rw [← List.tail_drop, hahead]
        rfl
      rw [distance?_cons, List.length_cons]
      by_cases hmatch : s.depth + i.nesting = 0 ∧ i = .loopEnd
      · rw [run_of_match (d := .forward) hget hmatch, if_pos hmatch, hposition]
        rfl
      · rw [run_of_no_match (d := .forward) hget hmatch, if_neg hmatch]
        exact ih (s := ⟨s.position + 1, s.depth + i.nesting⟩) hrest (by simp only; omega)

/-- Going backward, one round for each instruction up to this one is enough.  The search breaks
off at the first position and does not look before it. -/
theorem run_backward {p : Program} {start : Nat} (position : Nat) :
    ∀ {depth : Int} {walked : Nat}, position < p.length → start = position + walked →
      run p .backward (position + 1) ⟨position, depth⟩ =
        some ((distance? .loopStart depth walked (p.toList.take (position + 1)).reverse).map
          (start - ·)) := by
  induction position with
  | zero =>
      intro depth walked hlt hstart
      obtain ⟨i, rest, htoList⟩ : ∃ i rest, p.toList = i :: rest :=
        List.exists_cons_of_length_pos (by rwa [Program.length_toList])
      have hget : p.get? 0 = some i := by rw [Program.get?_eq_getElem?, htoList]; rfl
      have htake : (p.toList.take (0 + 1)).reverse = [i] := by rw [htoList]; rfl
      rw [htake, distance?_cons]
      by_cases hmatch : depth + i.nesting = 0 ∧ i = .loopStart
      · rw [run_of_match (d := .backward) (s := ⟨0, depth⟩) hget hmatch, if_pos hmatch,
          Option.map_some, hstart, Nat.add_sub_cancel]
      · rw [run_of_no_match (d := .backward) (s := ⟨0, depth⟩) hget hmatch, if_neg hmatch]
        rfl
  | succ position ih =>
      intro depth walked hlt hstart
      have hbound : position + 1 < p.toList.length := by rwa [Program.length_toList]
      have hget : p.get? (position + 1) = some p.toList[position + 1] := by
        rw [Program.get?_eq_getElem?, List.getElem?_eq_getElem hbound]
      have htake : (p.toList.take (position + 1 + 1)).reverse =
          p.toList[position + 1] :: (p.toList.take (position + 1)).reverse := by
        rw [List.take_succ_eq_append_getElem hbound, List.reverse_append]
        rfl
      rw [htake, distance?_cons]
      by_cases hmatch : depth + p.toList[position + 1].nesting = 0 ∧
          p.toList[position + 1] = .loopStart
      · rw [run_of_match (d := .backward) (s := ⟨position + 1, depth⟩) hget hmatch, if_pos hmatch,
          Option.map_some, hstart, Nat.add_sub_cancel]
      · rw [run_of_no_match (d := .backward) (s := ⟨position + 1, depth⟩) hget hmatch,
          if_neg hmatch]
        exact ih (by omega) (by omega)

/-- From every position and in both directions the loop ends, after at most one round for each
instruction and one more, and its answer is the partner. -/
theorem run_start (p : Program) (start : Nat) (d : Direction) :
    ∃ rounds, rounds ≤ p.length + 1 ∧
      run p d rounds ⟨start, 0⟩ = some (p.partner start d).toOption := by
  cases d with
  | forward =>
      refine ⟨(p.toList.drop start).length + 1, ?_, ?_⟩
      · rw [List.length_drop, Program.length_toList]
        omega
      · have hrun := @run_forward p start (p.toList.drop start) ⟨start, 0⟩ 0 rfl rfl
        rw [hrun, Program.toOption_partner_forward]
  | backward =>
      by_cases hinside : start < p.length
      · refine ⟨start + 1, by omega, ?_⟩
        have hrun := @run_backward p start start 0 0 hinside rfl
        rw [hrun, Program.toOption_partner_backward hinside]
      · have hnone : p.get? start = none := by
          rw [Program.get?_eq_getElem?, List.getElem?_eq_none_iff, Program.length_toList]
          omega
        refine ⟨1, by omega, ?_⟩
        rw [run_of_lost (by rw [round, hnone]), Program.toOption_partner_of_outside hinside]

end Search

/-! ## What it accepts -/

namespace Program

/-- A search from a start bracket fails exactly if the bracket has no partner, and reports the
bracket. -/
theorem partner_forward_eq_error_iff {p : Program} {a : Nat} (h : p.get? a = some .loopStart) :
    p.partner a .forward = .error ⟨a, '['⟩ ↔ ∀ b, ¬p.Joins a b := by
  constructor
  · intro hfails b hjoins
    rw [(partner_forward_eq_ok_iff h).mpr hjoins] at hfails
    cases hfails
  · intro halone
    cases hsearch : p.partner a .forward with
    | ok b => exact absurd ((partner_forward_eq_ok_iff h).mp hsearch) (halone b)
    | error fault => rw [partner_eq_error h hsearch]; rfl

/-- A search from an end bracket fails exactly if the bracket has no partner, and reports the
bracket. -/
theorem partner_backward_eq_error_iff {p : Program} {b : Nat} (h : p.get? b = some .loopEnd) :
    p.partner b .backward = .error ⟨b, ']'⟩ ↔ ∀ a, ¬p.Joins a b := by
  constructor
  · intro hfails a hjoins
    rw [(partner_backward_eq_ok_iff h).mpr hjoins] at hfails
    cases hfails
  · intro halone
    cases hsearch : p.partner b .backward with
    | ok a => exact absurd ((partner_backward_eq_ok_iff h).mp hsearch) (halone a)
    | error fault => rw [partner_eq_error h hsearch]; rfl

end Program

/-- The search for a partner accepts exactly the grammar of nested brackets.  From a start bracket
it finds the end bracket after a balanced list, from an end bracket the start bracket before one,
and if there is none it reports the bracket it started from.  There is at most one such bracket,
and each of the two is found from the other.  As a loop over positions the search ends from every
position in both directions. -/
theorem search_accepts_exactly_balanced (p : Program) :
    (∀ a, p.get? a = some .loopStart →
      (∀ b, p.partner a .forward = .ok b ↔
        a < b ∧ p.get? b = some .loopEnd ∧ Balanced ((p.toList.take b).drop (a + 1))) ∧
      (p.partner a .forward = .error ⟨a, '['⟩ ↔ ∀ b,
        ¬(a < b ∧ p.get? b = some .loopEnd ∧ Balanced ((p.toList.take b).drop (a + 1)))) ∧
      ∀ b b', p.Joins a b → p.Joins a b' → b = b') ∧
    (∀ b, p.get? b = some .loopEnd →
      (∀ a, p.partner b .backward = .ok a ↔
        a < b ∧ p.get? a = some .loopStart ∧ Balanced ((p.toList.take b).drop (a + 1))) ∧
      (p.partner b .backward = .error ⟨b, ']'⟩ ↔ ∀ a,
        ¬(a < b ∧ p.get? a = some .loopStart ∧ Balanced ((p.toList.take b).drop (a + 1)))) ∧
      ∀ a a', p.Joins a b → p.Joins a' b → a = a') ∧
    (∀ a b, p.get? a = some .loopStart → p.get? b = some .loopEnd →
      (p.partner a .forward = .ok b ↔ p.partner b .backward = .ok a)) ∧
    ∀ start d, ∃ rounds, rounds ≤ p.length + 1 ∧
      Search.run p d rounds ⟨start, 0⟩ = some (p.partner start d).toOption := by
  refine ⟨?_, ?_, ?_, Search.run_start p⟩
  · intro a ha
    have hjoins : ∀ b, p.Joins a b ↔
        a < b ∧ p.get? b = some .loopEnd ∧ Balanced ((p.toList.take b).drop (a + 1)) := fun b =>
      ⟨fun h => ⟨h.lt, h.end_eq, h.between⟩, fun ⟨hlt, hb, hbetween⟩ => ⟨hlt, ha, hb, hbetween⟩⟩
    simp only [← hjoins]
    exact ⟨fun b => Program.partner_forward_eq_ok_iff ha,
      Program.partner_forward_eq_error_iff ha, fun b b' h h' => h.end_unique h'⟩
  · intro b hb
    have hjoins : ∀ a, p.Joins a b ↔
        a < b ∧ p.get? a = some .loopStart ∧ Balanced ((p.toList.take b).drop (a + 1)) := fun a =>
      ⟨fun h => ⟨h.lt, h.start_eq, h.between⟩, fun ⟨hlt, ha, hbetween⟩ => ⟨hlt, ha, hb, hbetween⟩⟩
    simp only [← hjoins]
    exact ⟨fun a => Program.partner_backward_eq_ok_iff hb,
      Program.partner_backward_eq_error_iff hb, fun a a' h h' => h.start_unique h'⟩
  · intro a b ha hb
    rw [Program.partner_forward_eq_ok_iff ha, Program.partner_backward_eq_ok_iff hb]

/-- In a program with brackets to spare at both ends, `]][+[-[]]+]-[[`, the start bracket at 2 and
the end bracket at 10 find each other across a balanced list.  The end bracket at 1 and the start
bracket at 12 find nothing. -/
theorem search_accepts_exactly_balanced_of_spare_brackets :
    let p := Program.parse "]][+[-[]]+]-[["
    p.partner 2 .forward = .ok 10 ∧ p.partner 10 .backward = .ok 2 ∧
      Balanced ((p.toList.take 10).drop 3) ∧
      p.partner 1 .backward = .error ⟨1, ']'⟩ ∧ p.partner 12 .forward = .error ⟨12, '['⟩ ∧
      (∀ b, ¬p.Joins 12 b) := by
  intro p
  obtain ⟨hforward, hbackward, heach, -⟩ := search_accepts_exactly_balanced p
  have hfound : p.partner 2 .forward = .ok 10 := by rfl
  have hlost : p.partner 12 .forward = .error ⟨12, '['⟩ := by rfl
  obtain ⟨-, -, hbetween⟩ := ((hforward 2 (by decide)).1 10).mp hfound
  refine ⟨hfound, (heach 2 10 (by decide) (by decide)).mp hfound, hbetween, ?_, hlost, ?_⟩
  · refine (hbackward 1 (by decide)).2.1.mpr ?_
    rintro a ⟨hlt, ha, -⟩
    obtain rfl : a = 0 := by omega
    exact absurd ha (by decide)
  · intro b hjoins
    exact (hforward 12 (by decide)).2.1.mp hlost b ⟨hjoins.lt, hjoins.end_eq, hjoins.between⟩

end TapeConsole
