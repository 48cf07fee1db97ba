import TapeConsole.Proofs.Pace
import TapeConsole.Proofs.Transcript
set_option autoImplicit false

/-!
# When an instruction is due

A tick is counted before the count is compared with the threshold.  From a count of
`a` and a threshold of `T` the next instruction is therefore carried out by the tick
that makes the count `T`, and by the next one if the count is there already: a
threshold that has come down to zero still costs one tick.

While a value is waited for ticks are counted as well, so the count may be far above
the threshold when the value comes.  `Engine.OnlyCounts` covers both kinds of ticks
that only count, and `Engine.IdlesFor` says of an engine when it acts.
-/

namespace TapeConsole

namespace Engine

/-! ## Ticks that only count -/

/-- The same engine with another count of ticks since the last instruction. -/
def withCount (e : Engine) (n : Nat) : Engine := { e with clock := { e.clock with acc := n } }

theorem Ready.withCount {e : Engine} (h : e.Ready) (n : Nat) : (e.withCount n).Ready :=
  ⟨h.fault_eq, h.halted_eq, h.blocked_eq⟩

/-- Each of the next `n` ticks is told the same and adds one to the count, and that is all. -/
structure OnlyCounts (e : Engine) (n : Nat) (outcome : Outcome) : Prop where
  answers_eq : e.answers (List.replicate n .tick) = List.replicate n (.outcome outcome)
  after_eq : ∀ k, k ≤ n → e.after (List.replicate k .tick) = e.withCount (e.clock.acc + k)
  /-- Nothing reaches the sink or the log. -/
  signals_eq : e.signals (List.replicate n .tick) = []

/-- If one tick after the other only counts, all of them do. -/
theorem onlyCounts {e : Engine} {outcome : Outcome} {n : Nat}
    (h : ∀ k, k < n → (e.withCount (e.clock.acc + k)).tick =
      ⟨e.withCount (e.clock.acc + k + 1), outcome, []⟩) : e.OnlyCounts n outcome := by
  induction n with
  | zero =>
      refine ⟨rfl, ?_, rfl⟩
      intro k hk
      obtain rfl := Nat.le_zero.mp hk
      rfl
  | succ n ih =>
      have hrest := ih fun k hk => h k (Nat.lt_succ_of_lt hk)
      have hafter := hrest.after_eq n (Nat.le_refl n)
      have hlast : (e.withCount (e.clock.acc + n)).call .tick =
          ⟨e.withCount (e.clock.acc + n + 1), .outcome outcome, []⟩ := by
        rw [call, h n (Nat.lt_succ_self n)]
      refine ⟨?_, ?_, ?_⟩
      · rw [List.replicate_succ', List.replicate_succ', answers_append, hrest.answers_eq, hafter,
          answers, hlast]
        rfl
      · intro k hk
        rcases Nat.lt_or_eq_of_le hk with hlt | rfl
        · exact hrest.after_eq k (Nat.le_of_lt_succ hlt)
        · rw [List.replicate_succ', after_append, hafter, after_cons, hlast]
          rfl
      · rw [List.replicate_succ', signals_append, hrest.signals_eq, hafter, signals, hlast]
        rfl

/-- Ticks that come too early for the next instruction only count. -/
theorem onlyCounts_of_early {e : Engine} (hready : e.Ready) {n : Nat}
    (hearly : n ≤ e.clock.threshold - (e.clock.acc + 1)) : e.OnlyCounts n .idle := by
  refine onlyCounts fun k hk => ?_
  have hdue : (e.withCount (e.clock.acc + k)).clock.count.isDue = false := by
    refine decide_eq_false (Nat.not_le.mpr ?_)
    change e.clock.acc + k + 1 < e.clock.threshold
    omega
  exact tick_of_early (hready.withCount _) hdue

/-- Ticks while a value is waited for only count. -/
theorem onlyCounts_of_blocked {e : Engine} (hfault : e.fault = none) (hhalted : e.halted = false)
    (hblocked : e.blocked = true) (n : Nat) : e.OnlyCounts n .blocked :=
  onlyCounts fun k _ =>
    tick_of_blocked (e := e.withCount (e.clock.acc + k)) hfault hhalted hblocked

/-! ## Ticks that act -/

/-- The next tick carries out one instruction or faults at it, or it ends the program, and it
starts the count again. -/
structure ActsAtOnce (e : Engine) : Prop where
  /-- It counts one instruction or, past the last one, none. -/
  event :
    (∃ i position, e.Dispatches i position ∧ e.tick.engine.dispatched = e.dispatched + 1 ∧
      (e.tick.outcome = .dispatched i ∨ e.tick.outcome = .faulted ⟨position, i.toChar⟩)) ∨
    (e.tick.outcome = .halted ∧ e.tick.engine.halted = true ∧
      e.tick.engine.dispatched = e.dispatched)
  /-- The count starts again. -/
  acc_eq : e.tick.engine.clock.acc = 0

/-- A tick acts if nothing but the clock keeps the engine from its next instruction, and the clock
does not. -/
theorem actsAtOnce_of_due {e : Engine} (hsound : e.memo.Sound e.program) (hready : e.Ready)
    (hdue : e.clock.count.isDue = true) : e.ActsAtOnce := by
  cases hget : e.program.get? e.nextPosition with
  | none =>
      obtain ⟨hcount, hend⟩ := dispatch_past_end (e := e.still) hget
      have htick := tick_of_due hready hdue
      refine ⟨.inr ⟨?_, ?_, ?_⟩, ?_⟩ <;> rw [htick]
      · rw [dispatch_of_none (e := e.still) hget]
      · exact hend
      · exact hcount
      · rw [dispatch_of_none (e := e.still) hget]
        rfl
  | some i =>
      have hdispatches : e.Dispatches i e.nextPosition :=
        dispatches_iff.mpr ⟨hready, hdue, rfl, hget⟩
      have htick := hdispatches.tick_eq
      refine ⟨.inl ⟨i, e.nextPosition, hdispatches, ?_, ?_⟩, ?_⟩ <;> rw [htick]
      · exact dispatched_perform e.begun i e.nextPosition
      · cases performs (e := e.begun) hsound hget with
        | stays _ _ _ hperform => rw [hperform]; exact .inl rfl
        | writes _ _ hperform => rw [hperform]; exact .inl rfl
        | waits _ _ hperform => rw [hperform]; exact .inl rfl
        | jumps _ _ _ hperform => rw [hperform]; exact .inl rfl
        | fails _ _ hperform => rw [hperform]; exact .inr rfl
      · exact congrArg Clock.acc (clock_perform e.begun i e.nextPosition)

/-- The engine finds nothing to do for exactly `n` ticks and then acts. -/
structure IdlesFor (e : Engine) (n : Nat) : Prop where
  /-- The first `n` ticks are idle. -/
  counts : e.OnlyCounts n .idle
  /-- The next tick acts. -/
  acts : (e.after (List.replicate n .tick)).ActsAtOnce

theorem idlesFor {e : Engine} (hsound : e.memo.Sound e.program) (hready : e.Ready) :
    e.IdlesFor (max 1 (e.clock.threshold - e.clock.acc) - 1) := by
  have hn : max 1 (e.clock.threshold - e.clock.acc) - 1 =
      e.clock.threshold - (e.clock.acc + 1) := by omega
  rw [hn]
  have hcounts := onlyCounts_of_early hready (Nat.le_refl (e.clock.threshold - (e.clock.acc + 1)))
  refine ⟨hcounts, ?_⟩
  rw [hcounts.after_eq _ (Nat.le_refl _)]
  refine actsAtOnce_of_due hsound (hready.withCount _) (decide_eq_true ?_)
  change e.clock.threshold ≤ e.clock.acc + (e.clock.threshold - (e.clock.acc + 1)) + 1
  omega

/-! ## Waiting for a value -/

/-- What a tick leaves that has carried out an input instruction. -/
theorem tick_of_input {e : Engine} (h : e.tick.outcome = .dispatched .input) :
    e.tick.engine.fault = none ∧ e.tick.engine.halted = false ∧ e.tick.engine.blocked = true ∧
      e.tick.engine.clock.acc = 0 := by
  obtain ⟨i, position, hdispatches⟩ := exists_dispatches (.inl ⟨.input, h⟩)
  obtain ⟨hready, -, rfl, hget⟩ := dispatches_iff.mp hdispatches
  rw [hdispatches.tick_eq] at h ⊢
  have hi : i = .input := by
    rcases outcome_perform e.begun i e.nextPosition with hdone | ⟨fault, hfaulted⟩
    · exact Outcome.dispatched.inj (hdone.symm.trans h)
    · cases hfaulted.symm.trans h
  subst hi
  exact ⟨hready.fault_eq, halted_of_inside rfl (Program.lt_length_of_get? hget), rfl, rfl⟩

/-- A value that is waited for is taken, and the engine goes on with the count it has. -/
theorem idlesFor_of_deliver {e : Engine} (hsound : e.memo.Sound e.program) (hfault : e.fault = none)
    (hhalted : e.halted = false) (hblocked : e.blocked = true) (v : Int64) :
    (e.call (.deliver v)).answer = .taken true ∧
      (e.call (.deliver v)).engine.IdlesFor (max 1 (e.clock.threshold - e.clock.acc) - 1) := by
  rw [call, deliver_of_blocked hblocked]
  exact ⟨rfl, idlesFor hsound ⟨hfault, hhalted, rfl⟩⟩

end Engine

/-- The law of the step clock.  Take any engine between two calls that waits for no value and whose
run has not ended, with a count of `a` ticks and a threshold of `T`.  Of the next ticks exactly the
first `max 1 (T - a) - 1` find nothing to do, each only adding one to the count, and the one after
them carries out one instruction, faults or halts, and starts the count again.  After an input
instruction any number `b` of ticks only wait and make the count `b`, and once a value is delivered
the engine acts at tick `max 1 (T - b)` from there. -/
theorem acts_at_tick_of_threshold (p : Program) (calls : List Call) :
    let e := (Engine.load p).after calls
    (e.Ready → e.IdlesFor (max 1 (e.clock.threshold - e.clock.acc) - 1)) ∧
    (e.tick.outcome = .dispatched .input → ∀ b : Nat,
      let asked := e.tick.engine
      let waited := asked.after (List.replicate b .tick)
      asked.OnlyCounts b .blocked ∧ waited = asked.withCount b ∧
      ∀ v, (waited.call (.deliver v)).answer = .taken true ∧
        (waited.call (.deliver v)).engine.IdlesFor (max 1 (asked.clock.threshold - b) - 1)) := by
  intro e
  have hprogram : e.program = p := Engine.program_after (Engine.load p) calls
  have hsound : e.memo.Sound e.program := by
    rw [hprogram]
    exact Engine.memo_sound_after p calls
  refine ⟨Engine.idlesFor hsound, ?_⟩
  intro hinput b asked waited
  obtain ⟨hfault, hhalted, hblocked, hacc⟩ := Engine.tick_of_input hinput
  have hcounts : asked.OnlyCounts b .blocked :=
    Engine.onlyCounts_of_blocked hfault hhalted hblocked b
  have hwaited : waited = asked.withCount b := by
    have hafter := hcounts.after_eq b (Nat.le_refl b)
    rwa [hacc, Nat.zero_add] at hafter
  refine ⟨hcounts, hwaited, ?_⟩
  intro v
  rw [hwaited]
  have hasked : asked.memo.Sound asked.program := Engine.memo_sound_call hsound .tick
  exact Engine.idlesFor_of_deliver (e := asked.withCount b) hasked hfault hhalted hblocked v

/-- The first instruction takes sixty ticks.  If it asks for a value and that comes a hundred ticks
later, the next step, at a threshold of 57, is due at once. -/
theorem acts_at_tick_of_late_value :
    let start := Engine.load (.ofList [.input])
    let asked := (start.after (List.replicate 59 .tick)).tick.engine
    start.clock.threshold = 60 ∧ asked.clock.threshold = 57 ∧
      start.IdlesFor (max 1 (start.clock.threshold - start.clock.acc) - 1) ∧
      ((asked.after (List.replicate 100 .tick)).call (.deliver 7)).engine.IdlesFor
        (max 1 (asked.clock.threshold - 100) - 1) := by
  obtain ⟨hfirst, -⟩ := acts_at_tick_of_threshold (.ofList [.input]) []
  obtain ⟨-, hlate⟩ := acts_at_tick_of_threshold (.ofList [.input]) (List.replicate 59 .tick)
  exact ⟨by decide +kernel, by decide +kernel, hfirst ⟨rfl, rfl, rfl⟩,
    ((hlate (by decide +kernel) 100).2.2 7).2⟩

end TapeConsole
