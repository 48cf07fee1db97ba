import TapeConsole.Proofs.Invariant
import TapeConsole.Proofs.Transcript
set_option autoImplicit false

/-!
# Runs that have ended

A tick that raises a fault has counted an instruction and moved on to it, and that
is all it has done: `Engine.tick_of_raised` gives the tick as a whole.

A run that has ended, well or with a fault, is not changed by ticks and deliveries.
For ticks this is how they begin.  A delivery does not ask whether the run has
ended, only whether a value is waited for; that an ended run waits for none is part
of the invariant of engines.
-/

namespace TapeConsole

/-- The answer to a call after the end of a run: every tick is told how the run has ended, and no
value is taken. -/
def Call.answerAtEnd (outcome : Outcome) : Call → Answer
  | .tick => .outcome outcome
  | .deliver _ => .taken false
  | .reset => .restarted

namespace Engine

/-! ## A tick that faults -/

/-- What a tick does that raises a fault: the bracket is current and counted, the clock runs faster
and starts again, and nothing else changes. -/
theorem tick_of_raised {e : Engine} (hsound : e.memo.Sound e.program) (hbefore : e.fault = none)
    {fault : Fault} (h : e.tick.outcome = .faulted fault) :
    ∃ i, e.program.get? fault.position = some i ∧ fault.bracket = i.toChar ∧
      i.MustJump e.tape.read ∧
      e.tick = ⟨{ e with
          ip := some fault.position
          clock := { speed := e.clock.speed * Clock.acceleration, acc := 0 }
          dispatched := e.dispatched + 1
          fault := some fault }, .faulted fault,
        [.note (.dispatch (e.dispatched + 1) fault.position i), .note (.fault fault)]⟩ := by
  obtain ⟨i, position, hdispatches⟩ := exists_dispatches (.inr ⟨hbefore, fault, h⟩)
  obtain ⟨-, -, rfl, hget⟩ := dispatches_iff.mp hdispatches
  rw [hdispatches.tick_eq] at h ⊢
  cases performs (e := e.begun) hsound hget with
  | stays _ _ _ hperform => rw [hperform] at h; cases h
  | writes _ _ hperform => rw [hperform] at h; cases h
  | waits _ _ hperform => rw [hperform] at h; cases h
  | jumps _ _ _ hperform => rw [hperform] at h; cases h
  | fails hjump _ hperform =>
      rw [hperform] at h ⊢
      obtain rfl := Outcome.faulted.inj h
      exact ⟨i, hget, rfl, hjump, rfl⟩

/-! ## After the end -/

/-- The run has ended, and this is what a tick is told. -/
inductive Ended (e : Engine) : Outcome → Prop where
  /-- The program has come to its end. -/
  | halted (hhalted : e.halted = true) : Ended e .halted
  /-- A bracket had to jump and has no partner. -/
  | faulted {fault : Fault} (hfault : e.fault = some fault) : Ended e (.faulted fault)

theorem not_ended_reset (e : Engine) (outcome : Outcome) : ¬e.reset.1.Ended outcome := by
  intro h
  cases h with
  | halted hhalted => cases hhalted
  | faulted hfault => cases hfault

namespace Ended

variable {e : Engine} {outcome : Outcome}

theorem tick_eq (h : e.Ended outcome) (hinvariant : e.Invariant) : e.tick = ⟨e, outcome, []⟩ := by
  cases h with
  | faulted hfault => exact tick_of_fault hfault
  | halted hhalted =>
      have hone := hinvariant.at_most_one
      cases hfault : e.fault with
      | none => exact tick_of_halted hfault hhalted
      | some fault =>
          rw [hhalted, hfault] at hone
          simp only [Bool.toNat_true, Option.isSome_some] at hone
          omega

theorem blocked_eq (h : e.Ended outcome) (hinvariant : e.Invariant) : e.blocked = false := by
  cases hblocked : e.blocked with
  | false => rfl
  | true =>
      cases h with
      | halted hhalted => cases (hinvariant.halted_of_blocked hblocked).symm.trans hhalted
      | faulted hfault => cases (hinvariant.fault_of_blocked hblocked).symm.trans hfault

/-- After the end only a reset does anything. -/
theorem call_eq (h : e.Ended outcome) (hinvariant : e.Invariant) {c : Call} (hreset : c ≠ .reset) :
    e.call c = ⟨e, c.answerAtEnd outcome, []⟩ := by
  cases c with
  | tick => rw [call, h.tick_eq hinvariant]; rfl
  | deliver v => rw [call, deliver_of_not_blocked (h.blocked_eq hinvariant)]; rfl
  | reset => exact absurd rfl hreset

end Ended

end Engine

namespace Machine

variable {m : Machine} {outcome : Outcome}

/-- One call after the end: nothing reaches the sink or the log. -/
theorem call_of_ended (h : m.engine.Ended outcome) (hinvariant : m.engine.Invariant) {c : Call}
    (hreset : c ≠ .reset) : m.call c = (m, c.answerAtEnd outcome) := by
  rw [m.call_eq, h.call_eq hinvariant hreset]
  rfl

/-- Any history without a reset after the end. -/
theorem after_of_ended (h : m.engine.Ended outcome) (hinvariant : m.engine.Invariant)
    (calls : List Call) (hreset : Call.reset ∉ calls) :
    m.answers calls = calls.map (Call.answerAtEnd outcome) ∧ m.after calls = m := by
  induction calls with
  | nil => exact ⟨rfl, rfl⟩
  | cons c rest ih =>
      have hc : c ≠ .reset := fun heq => hreset (heq ▸ List.mem_cons_self)
      obtain ⟨hanswers, hafter⟩ := ih fun hmem => hreset (List.mem_cons_of_mem c hmem)
      unfold answers after
      rw [call_of_ended h hinvariant hc, hanswers, hafter]
      exact ⟨rfl, rfl⟩

/-- A call leaves an ended run ended unless it is a reset. -/
theorem ended_call_iff (h : m.engine.Ended outcome) (hinvariant : m.engine.Invariant) (c : Call) :
    (∃ later, (m.call c).1.engine.Ended later) ↔ c ≠ .reset := by
  constructor
  · rintro ⟨later, hlater⟩ rfl
    rw [m.call_eq, engine_advance] at hlater
    exact m.engine.not_ended_reset later hlater
  · intro hreset
    rw [call_of_ended h hinvariant hreset]
    exact ⟨outcome, h⟩

end Machine

/-- A fault changes nothing but what every instruction changes, and the end of a run is final.  After
every history, a tick that raises a fault makes the offending bracket current and counts it, with
the clock faster and set back, and leaves tape, output, sink, memo and the wait for a value as they
were.  Once the program has ended or a fault has been raised, ticks are told so and values are
refused, whatever their number and order, and engine, sink and log stay the same.  Only a reset goes
on from there. -/
theorem fault_changes_only_count_and_end_is_final (p : Program) (sink : Sink)
    (history : List Call) :
    let m := ({ engine := .load p, sink := sink } : Machine).after history
    (∀ fault, m.engine.fault = none → m.tick.2 = .faulted fault →
      ∃ i, p.get? fault.position = some i ∧ fault.bracket = i.toChar ∧
        i.MustJump m.engine.tape.read ∧
        m.tick.1 =
          { m with
            engine :=
              { m.engine with
                ip := some fault.position
                clock := { speed := m.engine.clock.speed * Clock.acceleration, acc := 0 }
                dispatched := m.engine.dispatched + 1
                fault := some fault }
            log := (m.log.push (.dispatch (m.engine.dispatched + 1) fault.position i)).push
              (.fault fault) }) ∧
    ∀ outcome, m.engine.Ended outcome →
      (∀ calls, Call.reset ∉ calls →
        m.answers calls = calls.map (Call.answerAtEnd outcome) ∧ m.after calls = m) ∧
      ∀ c, (∃ later, (m.call c).1.engine.Ended later) ↔ c ≠ .reset := by
  intro m
  have hengine : m.engine = (Engine.load p).after history :=
    Machine.engine_after { engine := .load p, sink := sink } history
  have hprogram : m.engine.program = p := by
    rw [hengine]
    exact Engine.program_after (Engine.load p) history
  have hsound : m.engine.memo.Sound m.engine.program := by
    rw [hprogram, hengine]
    exact Engine.memo_sound_after p history
  have hinvariant : m.engine.Invariant := hengine ▸ Engine.invariant_after p history
  refine ⟨?_, ?_⟩
  · intro fault hbefore hraised
    obtain ⟨i, hget, hbracket, hjump, htick⟩ := Engine.tick_of_raised hsound hbefore hraised
    refine ⟨i, hprogram ▸ hget, hbracket, hjump, ?_⟩
    unfold Machine.tick
    rw [htick]
    rfl
  · intro outcome hended
    exact ⟨Machine.after_of_ended hended hinvariant, Machine.ended_call_iff hended hinvariant⟩

/-- A single start bracket raises a fault at the sixtieth tick, which is counted, and a value that
comes later is refused. -/
theorem fault_changes_only_count_of_lone_start :
    let start : Machine := { engine := .load (.ofList [.loopStart]), sink := .channel "" }
    let before := start.after (List.replicate 59 .tick)
    let ended := start.after (List.replicate 60 .tick)
    (∃ log, before.tick.1 =
      { before with
        engine :=
          { before.engine with
            ip := some 0
            clock := { speed := before.engine.clock.speed * Clock.acceleration, acc := 0 }
            dispatched := before.engine.dispatched + 1
            fault := some ⟨0, '['⟩ }
        log := log }) ∧
      ended.answers [.deliver 7, .tick] = [.taken false, .outcome (.faulted ⟨0, '['⟩)] ∧
      ended.after [.deliver 7, .tick] = ended := by
  obtain ⟨hraised, -⟩ := fault_changes_only_count_and_end_is_final (.ofList [.loopStart])
    (.channel "") (List.replicate 59 .tick)
  obtain ⟨-, hended⟩ := fault_changes_only_count_and_end_is_final (.ofList [.loopStart])
    (.channel "") (List.replicate 60 .tick)
  obtain ⟨i, -, -, -, htick⟩ := hraised ⟨0, '['⟩ (by decide +kernel) (by decide +kernel)
  obtain ⟨hanswers, hafter⟩ :=
    (hended (.faulted ⟨0, '['⟩) (.faulted (by decide +kernel))).1 [.deliver 7, .tick] (by decide)
  exact ⟨⟨_, htick⟩, hanswers, hafter⟩

end TapeConsole
