import TapeConsole.Proofs.Passes
set_option autoImplicit false

/-!
# What a limit of ticks does

A limit never changes what a headless run does, it only cuts it short.  As long as
fewer ticks have been made than the limit allows, a pass is the same with it and
without it (`Headless.step_of_lt`), so the two runs go through the same states.

The limit is looked at before a byte is read and before the machine ticks.  A run
that ends by a tick is therefore in time if that tick is allowed, and one that ends
because a byte cannot be read only if one tick more would be: `Headless.InTime`.  A
run without a limit ends within `n` passes exactly if its end is in time for the
limit `n` (`Headless.runFor_eq_some_iff`), and the law follows from this.
-/

namespace TapeConsole

namespace Headless

/-! ## Ends in time -/

/-- A run that ends with this result after so many ticks ends before the limit stops it. -/
def InTime (limit ticks : Nat) : Except Failure Summary → Prop
  | .ok _ => ticks ≤ limit
  | .error (.engine _) => ticks ≤ limit
  | .error (.input _) => ticks < limit
  | .error (.tickLimit _) => False

theorem InTime.mono {limit larger ticks : Nat} {result : Except Failure Summary}
    (h : InTime limit ticks result) (hle : limit ≤ larger) : InTime larger ticks result := by
  rcases result with (fault | reason | reached) | summary
  · exact Nat.le_trans h hle
  · exact Nat.lt_of_lt_of_le h hle
  · exact h
  · exact Nat.le_trans h hle

/-- The pass that ends a run without a limit is in time if the limit allows one tick more than
were made before it, and not if it allows none. -/
theorem inTime_of_ended {s t : State} {result : Except Failure Summary}
    (h : s.step none = ⟨t, some result⟩) :
    InTime (s.ticks + 1) t.ticks result ∧ ¬InTime s.ticks t.ticks result := by
  cases s.pass_end none with
  | stopped hlimit => cases hlimit
  | goes _ _ hstep => cases hstep.symm.trans h
  | unread reason reader hstep =>
      cases hstep.symm.trans h
      exact ⟨Nat.lt_succ_self _, Nat.lt_irrefl _⟩
  | ends _ hticks hstep =>
      cases hstep.symm.trans h
      exact ⟨Nat.le_of_eq hticks, Nat.not_le.mpr (hticks ▸ Nat.lt_succ_self _)⟩
  | faults _ fault hticks hstep =>
      cases hstep.symm.trans h
      exact ⟨Nat.le_of_eq hticks, Nat.not_le.mpr (hticks ▸ Nat.lt_succ_self _)⟩

/-- A run without a limit that ends within `n` passes is in time if `n` ticks more are allowed, and
is not if no more are. -/
theorem inTime_of_runFor {n : Nat} {s s' : State} {result : Except Failure Summary}
    (h : runFor n none s = some (s', result)) :
    InTime (s.ticks + n) s'.ticks result ∧ ¬InTime s.ticks s'.ticks result := by
  induction n generalizing s with
  | zero => cases h
  | succ n ih =>
      rcases hstep : s.step none with ⟨t, _ | early⟩
      · rw [runFor_of_going hstep] at h
        obtain ⟨hin, hout⟩ := ih h
        rw [ticks_of_going hstep] at hin hout
        refine ⟨hin.mono (by omega), ?_⟩
        intro hearlier
        exact hout (hearlier.mono (Nat.le_succ _))
      · rw [runFor_of_ended hstep] at h
        cases h
        obtain ⟨hin, hout⟩ := inTime_of_ended hstep
        exact ⟨hin.mono (by omega), hout⟩

/-- Without a limit, to end within `n` passes is to end in time for `n` more ticks. -/
theorem runFor_eq_some_iff {n : Nat} {s s' : State} {result : Except Failure Summary} :
    runFor n none s = some (s', result) ↔
      Ends none s s' result ∧ InTime (s.ticks + n) s'.ticks result := by
  constructor
  · intro h
    exact ⟨⟨n, h⟩, (inTime_of_runFor h).1⟩
  · rintro ⟨⟨fuel, hfuel⟩, hin⟩
    -- A run that has not ended after `n` passes has made `n` ticks, and its end comes too late.
    rcases hearly : runFor n none s with _ | r
    · obtain ⟨hticks, hlater⟩ := runFor_of_none hearly
      have hrest : runFor fuel none (s.passes none n) = some (s', result) := by
        rw [← hlater fuel]
        exact runFor_of_le hfuel (Nat.le_add_left fuel n)
      rw [← hticks] at hin
      exact absurd hin (inTime_of_runFor hrest).2
    · obtain ⟨rfl, rfl⟩ := Ends.unique ⟨n, hearly⟩ ⟨fuel, hfuel⟩
      rfl

/-! ## With a limit -/

/-- Before the limit is reached a pass does not see it. -/
theorem step_of_lt {limit : Nat} {s : State} (h : s.ticks < limit) :
    s.step (some limit) = s.step none := by
  have hfree : atLimit (some limit) s.ticks = atLimit none s.ticks :=
    decide_eq_false (Nat.not_le.mpr h)
  unfold State.step
  rw [hfree]

/-- Once the limit is reached the run ends. -/
theorem step_of_le {limit : Nat} {s : State} (h : limit ≤ s.ticks) :
    s.step (some limit) = ⟨s, some (.error (.tickLimit s.ticks))⟩ := by
  have hreached : atLimit (some limit) s.ticks = true := decide_eq_true h
  unfold State.step
  rw [hreached, if_pos rfl]

/-- As many passes as there are ticks left are the same with the limit and without it. -/
theorem runFor_of_within {limit n : Nat} {s : State} (h : s.ticks + n ≤ limit) :
    runFor n (some limit) s = runFor n none s ∧ s.passes (some limit) n = s.passes none n := by
  induction n generalizing s with
  | zero => exact ⟨rfl, rfl⟩
  | succ n ih =>
      have hsame : s.step (some limit) = s.step none := step_of_lt (by omega)
      rcases hstep : s.step none with ⟨t, _ | result⟩
      · have hticks := ticks_of_going hstep
        rw [runFor_of_going hstep, runFor_of_going (hsame.trans hstep),
          State.passes_of_going hstep, State.passes_of_going (hsame.trans hstep)]
        exact ih (by omega)
      · rw [runFor_of_ended hstep, runFor_of_ended (hsame.trans hstep),
          State.passes_of_ended hstep, State.passes_of_ended (hsame.trans hstep)]
        exact ⟨rfl, rfl⟩

variable {limit : Nat} {s : State}

/-- A run that ends within as many passes as the limit allows ticks is not changed by it. -/
theorem run_of_runFor {r : State × Except Failure Summary} (hstart : s.ticks = 0)
    (h : runFor limit none s = some r) : run (some limit) s = some r := by
  have hwithin : s.ticks + limit ≤ limit := by omega
  rw [← (runFor_of_within hwithin).1] at h
  exact runFor_of_le h (Nat.le_succ limit)

/-- Any other run is stopped by the limit in the state it is in by then. -/
theorem run_of_none (hstart : s.ticks = 0) (h : runFor limit none s = none) :
    run (some limit) s = some (s.passes none limit, .error (.tickLimit limit)) := by
  have hwithin : s.ticks + limit ≤ limit := by omega
  obtain ⟨hrun, hpasses⟩ := runFor_of_within hwithin
  obtain ⟨hticks, hlater⟩ := runFor_of_none (hrun.trans h)
  rw [hstart, Nat.zero_add] at hticks
  have hend := step_of_le (Nat.le_of_eq hticks.symm)
  rw [hticks] at hend
  have hlast : run (some limit) s = runFor 1 (some limit) (s.passes (some limit) limit) := hlater 1
  rw [hlast, runFor_of_ended hend, hpasses]

end Headless

/-- A limit of ticks only cuts a headless run short.  If the run without a limit ends in time, the
run with the limit ends in the same state and with the same result.  Otherwise, also if the run
without a limit never ends, it is stopped at exactly the limit, and the bytes it has written are the
first ones of those the run without a limit writes.  Hence a larger limit changes no other
result. -/
theorem run_eq_unlimited_or_tickLimit (source : String) (reader : List ReadEvent)
    (writer : ByteWriter) (limit : Nat) :
    let start := Headless.State.start source reader writer
    (∀ s result, Headless.Ends none start s result → Headless.InTime limit s.ticks result →
      Headless.run (some limit) start = some (s, result)) ∧
    ((∀ s result, Headless.Ends none start s result → ¬Headless.InTime limit s.ticks result) →
      ∃ s, Headless.run (some limit) start = some (s, .error (.tickLimit limit)) ∧
        (∀ n, limit ≤ n → s.written <+: (start.passes none n).written) ∧
        ∀ s' result, Headless.Ends none start s' result → s.written <+: s'.written) ∧
    ∀ larger s result, limit ≤ larger → Headless.run (some limit) start = some (s, result) →
      result ≠ .error (.tickLimit limit) →
      Headless.run (some larger) start = some (s, result) := by
  intro start
  have hstart : start.ticks = 0 := rfl
  have hiff : ∀ n s result, Headless.runFor n none start = some (s, result) ↔
      Headless.Ends none start s result ∧ Headless.InTime n s.ticks result := by
    intro n s result
    rw [Headless.runFor_eq_some_iff, hstart, Nat.zero_add]
  refine ⟨?_, ?_, ?_⟩
  · intro s result hends hin
    exact Headless.run_of_runFor hstart ((hiff limit s result).mpr ⟨hends, hin⟩)
  · intro hlate
    have hnone : Headless.runFor limit none start = none := by
      rcases hrun : Headless.runFor limit none start with _ | ⟨s, result⟩
      · rfl
      · obtain ⟨hends, hin⟩ := (hiff limit s result).mp hrun
        exact absurd hin (hlate s result hends)
    refine ⟨_, Headless.run_of_none hstart hnone, ?_, ?_⟩
    · intro n hle
      exact Headless.State.written_passes_of_le hle
    · rintro s' result ⟨fuel, hfuel⟩
      have hmore := Headless.runFor_of_le hfuel (Nat.le_max_right limit fuel)
      rw [← Headless.passes_of_runFor hmore]
      exact Headless.State.written_passes_of_le (Nat.le_max_left limit fuel)
  · intro larger s result hle hrun hother
    rcases hearly : Headless.runFor limit none start with _ | r
    · cases (Headless.run_of_none hstart hearly).symm.trans hrun
      exact absurd rfl hother
    · cases (Headless.run_of_runFor hstart hearly).symm.trans hrun
      exact Headless.run_of_runFor hstart (Headless.runFor_of_le hearly hle)

/-- A run that writes one byte, makes 117 ticks and then cannot read: the limit that allows one tick
more does not stop it, and the limit of 117 does. -/
theorem run_of_unread_byte :
    let start := Headless.State.start ".," [.interrupted, .failed "gone"] {}
    (∃ s, Headless.run (some 118) start = some (s, .error (.input "gone"))) ∧
    (∃ s, Headless.run (some 117) start = some (s, .error (.tickLimit 117)) ∧
      s.written <+: (start.passes none 118).written) ∧
    ∃ s, Headless.run (some 300) start = some (s, .error (.input "gone")) := by
  intro start
  have hrun : (Headless.runFor 118 none start).map
      (fun r => (r.1.ticks, match r.2 with
        | .error failure => some failure
        | .ok _ => none)) = some (117, some (.input "gone")) := by
    decide +kernel
  obtain ⟨⟨s, failure | summary⟩, hends, hpair⟩ := Option.map_eq_some_iff.mp hrun
  · obtain ⟨hticks, hfailure⟩ := Prod.mk.inj hpair
    obtain rfl : failure = .input "gone" := Option.some.inj hfailure
    have hstop : Headless.Ends none start s (.error (.input "gone")) := ⟨118, hends⟩
    obtain ⟨hearly, -, hlarger⟩ :=
      run_eq_unlimited_or_tickLimit ".," [.interrupted, .failed "gone"] {} 118
    obtain ⟨-, hlate, -⟩ :=
      run_eq_unlimited_or_tickLimit ".," [.interrupted, .failed "gone"] {} 117
    have hread := hearly s _ hstop (Nat.lt_of_le_of_lt (Nat.le_of_eq hticks) (by decide))
    have hall : ∀ s' result, Headless.Ends none start s' result →
        ¬Headless.InTime 117 s'.ticks result := by
      intro s' result hother
      obtain ⟨rfl, rfl⟩ := hstop.unique hother
      exact Nat.not_lt.mpr (Nat.le_of_eq hticks.symm)
    obtain ⟨t, hcut, hbytes, -⟩ := hlate hall
    refine ⟨⟨s, hread⟩, ⟨t, hcut, hbytes 118 (by decide)⟩, s, ?_⟩
    exact hlarger 300 s _ (by decide) hread (by simp)
  · cases (Prod.mk.inj hpair).2

end TapeConsole
