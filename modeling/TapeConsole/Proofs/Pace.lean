import Mathlib.Algebra.BigOperators.Group.Finset.Basic
import TapeConsole.Proofs.HeadlessRun
import TapeConsole.Proofs.Schedule
import TapeConsole.Proofs.Threshold
set_option autoImplicit false

/-!
# What a headless run costs

The speed of the clock is a function of the number of instructions carried out
(`Clock.speedAfter`), and so is the number of ticks the next one takes
(`Clock.cost`).  A headless run answers a request for input before it ticks, so
none of its ticks finds the engine waiting: every tick is one towards the next
instruction.  Hence the ticks of a run that ends well are the sum of the costs of
its instructions, and of one step more, the one past the last instruction.

`Engine.OnPace` says of an engine that its clock agrees with its count of
instructions.  `Headless.State.OnPace` adds that the ticks made are the costs so
far and the count of the clock.
-/

namespace TapeConsole

namespace Clock

/-- The speed after a number of instructions. -/
def speedAfter : Nat → Float
  | 0 => 1.0
  | k + 1 => speedAfter k * acceleration

/-- The ticks that the instruction after `k` others takes.  A threshold of zero is one tick all the
same, because an instruction is carried out by a tick. -/
def cost (k : Nat) : Nat := max 1 (thresholdAt (speedAfter k))

end Clock

namespace Engine

/-! ## The clock of an engine -/

/-- Carrying out an instruction does not touch the clock. -/
theorem clock_perform (e : Engine) (i : Instruction) (position : Nat) :
    (e.perform i position).engine.clock = e.clock := by
  rcases e.perform_cases i position with ⟨direction, -, h⟩ | ⟨_, _, _, _, h⟩
  · rw [h]
    unfold jump
    split <;> rfl
  · rw [h]

/-- An instruction that is carried out without a fault leaves none. -/
theorem fault_perform {e : Engine} {i : Instruction} {position : Nat}
    (h : (e.perform i position).outcome = .dispatched i) :
    (e.perform i position).engine.fault = e.fault := by
  rcases e.perform_cases i position with ⟨direction, -, hjump⟩ | ⟨_, _, _, _, hplain⟩
  · rw [hjump] at h ⊢
    unfold jump at h ⊢
    split at h
    · rfl
    · cases h
  · rw [hplain]

/-- The engine goes on, and its clock is what the count of instructions says. -/
structure OnPace (e : Engine) : Prop where
  memo_sound : e.memo.Sound e.program
  fault_eq : e.fault = none
  halted_eq : e.halted = false
  /-- The speed is the one after this number of instructions. -/
  speed_eq : e.clock.speed = Clock.speedAfter e.dispatched
  /-- Fewer ticks have been counted than the next instruction takes. -/
  acc_lt : e.clock.acc < Clock.cost e.dispatched

namespace OnPace

variable {e : Engine}

theorem load (p : Program) : (load p).OnPace where
  memo_sound := JumpMemo.sound_blank p
  fault_eq := rfl
  halted_eq := rfl
  speed_eq := rfl
  acc_lt := Nat.le_max_left 1 _

theorem deliver (h : e.OnPace) (v : Int64) : (e.deliver v).1.OnPace := by
  cases hblocked : e.blocked with
  | false =>
      rw [deliver_of_not_blocked hblocked]
      exact h
  | true =>
      rw [deliver_of_blocked hblocked]
      exact ⟨h.memo_sound, h.fault_eq, h.halted_eq, h.speed_eq, h.acc_lt⟩

/-- A tick before the next instruction is due is counted, and that is not the last one. -/
theorem counted (h : e.OnPace) (hdue : e.clock.count.isDue = false) : e.counted.OnPace := by
  refine ⟨h.memo_sound, h.fault_eq, h.halted_eq, h.speed_eq, ?_⟩
  have hlt : e.clock.acc + 1 < Clock.thresholdAt e.clock.speed :=
    Nat.not_le.mp (of_decide_eq_false hdue)
  rw [h.speed_eq] at hlt
  exact Nat.lt_of_lt_of_le hlt (Nat.le_max_right 1 _)

/-- An instruction is due at the tick that makes its cost full, and at no earlier one. -/
theorem acc_add_one (h : e.OnPace) (hdue : e.clock.count.isDue = true) :
    e.clock.acc + 1 = Clock.cost e.dispatched := by
  have hle : Clock.thresholdAt e.clock.speed ≤ e.clock.acc + 1 := of_decide_eq_true hdue
  have hlt := h.acc_lt
  rw [h.speed_eq] at hle
  unfold Clock.cost at hlt ⊢
  omega

/-- After an instruction the clock is set back and runs at the next speed. -/
theorem dispatch (h : e.OnPace) {i : Instruction} (hget : e.program.get? e.nextPosition = some i)
    (houtcome : e.still.dispatch.outcome = .dispatched i) :
    e.still.dispatch.engine.OnPace ∧ e.still.dispatch.engine.dispatched = e.dispatched + 1 ∧
      e.still.dispatch.engine.clock.acc = 0 := by
  obtain ⟨hcount, hhalted⟩ := dispatch_inside (e := e.still) h.memo_sound hget
  have hclock : e.still.dispatch.engine.clock = ⟨e.clock.speed * Clock.acceleration, 0⟩ := by
    rw [dispatch_of_some (e := e.still) hget]
    exact clock_perform e.still.started i e.still.nextPosition
  have hfault : e.still.dispatch.engine.fault = none := by
    rw [dispatch_of_some (e := e.still) hget] at houtcome ⊢
    exact (fault_perform houtcome).trans h.fault_eq
  refine ⟨⟨?_, hfault, hhalted, ?_, ?_⟩, hcount, ?_⟩
  · rw [program_dispatch]
    exact memo_sound_dispatch (e := e.still) h.memo_sound
  · rw [hclock, hcount, h.speed_eq]
    rfl
  · rw [hclock]
    exact Nat.le_max_left 1 _
  · rw [hclock]

/-- What a tick does that does not find the engine waiting: it is counted, or it makes the cost of
the next instruction full and that instruction is carried out, fails or is the end. -/
theorem tick_cases (h : e.OnPace) (hblocked : e.blocked = false) :
    (e.tick.outcome = .idle ∧ e.tick.engine.OnPace ∧ e.tick.engine.dispatched = e.dispatched ∧
      e.tick.engine.clock.acc = e.clock.acc + 1) ∨
    (e.clock.acc + 1 = Clock.cost e.dispatched ∧
      ((∃ i, e.tick.outcome = .dispatched i ∧ e.tick.engine.OnPace ∧
          e.tick.engine.dispatched = e.dispatched + 1 ∧ e.tick.engine.clock.acc = 0) ∨
        (e.tick.outcome = .halted ∧ e.tick.engine.dispatched = e.dispatched) ∨
        ∃ fault, e.tick.outcome = .faulted fault)) := by
  have hready : e.Ready := ⟨h.fault_eq, h.halted_eq, hblocked⟩
  cases hdue : e.clock.count.isDue with
  | false =>
      rw [tick_of_early hready hdue]
      exact .inl ⟨rfl, h.counted hdue, rfl, rfl⟩
  | true =>
      rw [tick_of_due hready hdue]
      refine .inr ⟨h.acc_add_one hdue, ?_⟩
      cases hget : e.program.get? e.nextPosition with
      | none =>
          rw [dispatch_of_none (e := e.still) hget]
          exact .inr (.inl ⟨rfl, rfl⟩)
      | some i =>
          have houtcome : e.still.dispatch.outcome =
              (e.still.started.perform i e.nextPosition).outcome := by
            rw [dispatch_of_some (e := e.still) hget]
            rfl
          rcases outcome_perform e.still.started i e.nextPosition with hdone | ⟨fault, hfault⟩
          · exact .inl ⟨i, houtcome.trans hdone, h.dispatch hget (houtcome.trans hdone)⟩
          · exact .inr (.inr ⟨fault, houtcome.trans hfault⟩)

end OnPace

end Engine

namespace Headless

open Finset (range sum_range_succ)

/-! ## The ticks of a run -/

/-- The run goes on, and the ticks it has made are the costs of the instructions carried out and
those the clock has counted since. -/
structure State.OnPace (s : State) : Prop where
  engine : s.machine.engine.OnPace
  ticks_eq : s.ticks =
    ∑ k ∈ range s.machine.engine.dispatched, Clock.cost k + s.machine.engine.clock.acc

namespace State.OnPace

variable {s : State}

theorem start (source : String) (reader : List ReadEvent) (writer : ByteWriter) :
    (State.start source reader writer).OnPace :=
  ⟨.load _, rfl⟩

/-- To answer a request for input costs nothing. -/
theorem supplied (h : s.OnPace) (v : Int64) (reader : List ReadEvent) :
    (s.supplied v reader).OnPace := by
  have hticks := h.ticks_eq
  constructor
  · rw [engine_supplied]
    exact h.engine.deliver v
  · rw [engine_supplied]
    unfold Engine.deliver
    split <;> exact hticks

/-- One tick of a run whose engine does not wait keeps the balance, or it ends the run.  If that
is a good end, the cost of one step more has been paid. -/
theorem tick_cases (h : s.OnPace) (hblocked : s.machine.engine.blocked = false) :
    (∃ t, s.tick = ⟨t, none⟩ ∧ t.OnPace) ∨
    (∃ t, s.tick = ⟨t, some (.ok t.summary)⟩ ∧
      t.summary.ticks = ∑ k ∈ range (t.summary.dispatched + 1), Clock.cost k) ∨
    ∃ t failure, s.tick = ⟨t, some (.error failure)⟩ := by
  have hticks : s.ticked.ticks = s.ticks + 1 := rfl
  rcases h.engine.tick_cases hblocked with ⟨houtcome, hpace, hcount, hacc⟩ |
    ⟨hfull, ⟨i, houtcome, hpace, hcount, hacc⟩ | ⟨houtcome, hcount⟩ | ⟨fault, houtcome⟩⟩
  · refine .inl ⟨s.ticked, tick_of_idle houtcome, ?_, ?_⟩
    · rw [engine_ticked]
      exact hpace
    · rw [hticks, engine_ticked, hcount, hacc, h.ticks_eq]
      omega
  · refine .inl ⟨s.ticked, tick_of_dispatched houtcome, ?_, ?_⟩
    · rw [engine_ticked]
      exact hpace
    · rw [hticks, engine_ticked, hcount, hacc, h.ticks_eq, sum_range_succ]
      omega
  · refine .inr (.inl ⟨s.ticked, tick_of_halted houtcome, ?_⟩)
    have hdispatched : s.ticked.summary.dispatched = s.machine.engine.dispatched := by
      unfold summary
      rw [engine_ticked, hcount]
    have hmade : s.ticked.summary.ticks = s.ticks + 1 := rfl
    rw [hmade, hdispatched, h.ticks_eq, sum_range_succ]
    omega
  · exact .inr (.inr ⟨s.ticked, .engine fault, tick_of_faulted houtcome⟩)

/-- One pass keeps the balance or ends the run, whatever the limit is. -/
theorem step_cases (h : s.OnPace) (limit : Option Nat) :
    (∃ t, s.step limit = ⟨t, none⟩ ∧ t.OnPace) ∨
    (∃ t, s.step limit = ⟨t, some (.ok t.summary)⟩ ∧
      t.summary.ticks = ∑ k ∈ range (t.summary.dispatched + 1), Clock.cost k) ∨
    ∃ t failure, s.step limit = ⟨t, some (.error failure)⟩ := by
  cases s.pass_event limit with
  | stopped _ hstep => exact .inr (.inr ⟨_, _, hstep⟩)
  | unread _ _ _ _ _ hstep => exact .inr (.inr ⟨_, _, hstep⟩)
  | ticks _ hblocked hstep =>
      rw [hstep]
      exact h.tick_cases hblocked
  | answers v reader _ hblocked _ hstep =>
      rw [hstep]
      refine (h.supplied v reader).tick_cases ?_
      rw [engine_supplied, Engine.deliver_of_blocked hblocked]

/-- A run that ends well has paid for its instructions and for one step more.  The induction is on
the passes. -/
theorem ticks_of_ends {limit : Option Nat} {s' : State} {summary : Summary} (h : s.OnPace)
    (hends : Ends limit s s' (.ok summary)) :
    summary.ticks = ∑ k ∈ range (summary.dispatched + 1), Clock.cost k := by
  obtain ⟨fuel, hfuel⟩ := hends
  induction fuel generalizing s with
  | zero => cases hfuel
  | succ fuel ih =>
      rcases h.step_cases limit with ⟨t, hstep, ht⟩ | ⟨t, hstep, hsum⟩ | ⟨t, failure, hstep⟩
      · rw [runFor_of_going hstep] at hfuel
        exact ih ht hfuel
      · rw [runFor_of_ended hstep] at hfuel
        cases hfuel
        exact hsum
      · rw [runFor_of_ended hstep] at hfuel
        cases hfuel

end State.OnPace

end Headless

/-- The ticks of a headless run that ends well depend only on the number of instructions it has
carried out: each takes its threshold, but at least one tick, and so does the step past the last
one.  Requests for input, jumps and loops that are skipped take no ticks of their own, and neither
the reader nor the writer nor the limit matters.  A threshold is the word of 64 bits to which the
base divided by the speed is rounded. -/
theorem ticks_eq_sum_of_ends (source : String) (reader : List ReadEvent) (writer : ByteWriter)
    (limit : Option Nat) {s : Headless.State} {summary : Headless.Summary}
    (h : Headless.Ends limit (.start source reader writer) s (.ok summary)) :
    summary.ticks =
      ∑ k ∈ Finset.range (summary.dispatched + 1),
        max 1 (Clock.thresholdAt (Clock.speedAfter k)) ∧
    ∀ k n, Clock.thresholdAt (Clock.speedAfter k) = n ↔
      (Binary64.ofFloat (Clock.baseTicks / Clock.speedAfter k)).RoundsTo n :=
  ⟨(Headless.State.OnPace.start source reader writer).ticks_of_ends h,
    fun _ n => Binary64.nearestWord_eq_iff _ n⟩

/-- A request for input that is answered by the end of the input, and a loop that is skipped: two
instructions and the step past the last one, under a limit that is just enough. -/
theorem ticks_eq_sum_of_skipped_loop :
    ∃ s summary, Headless.Ends (some 171) (.start ",[.]" [.interrupted] {}) s (.ok summary) ∧
      summary.dispatched = 2 ∧ summary.ticks = 60 + 57 + 54 := by
  have hrun : (Headless.runFor 171 (some 171) (.start ",[.]" [.interrupted] {})).map
      (fun r => r.2.toOption.map Headless.Summary.dispatched) = some (some 2) := by
    decide +kernel
  rcases hends : Headless.runFor 171 (some 171) (.start ",[.]" [.interrupted] {}) with
    _ | ⟨s, failure | summary⟩
  · rw [hends] at hrun
    cases hrun
  · rw [hends] at hrun
    cases hrun
  · rw [hends] at hrun
    have hcount : summary.dispatched = 2 := Option.some.inj (Option.some.inj hrun)
    refine ⟨s, summary, ⟨171, hends⟩, hcount, ?_⟩
    rw [(ticks_eq_sum_of_ends ",[.]" [.interrupted] {} (some 171) ⟨171, hends⟩).1, hcount]
    decide +kernel

end TapeConsole
