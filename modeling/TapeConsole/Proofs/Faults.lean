import TapeConsole.Proofs.Dispatch
import TapeConsole.Proofs.Pairing
set_option autoImplicit false

/-!
# Faults

A fault is raised when a bracket has to jump and has no partner, and at no other
time.  Which brackets have none is decided by one pass over the program with a
stack, though the engine finds it out by searching, or from its memo, when the
bracket is reached.  A program in which the pass leaves no bracket over never
faults.
-/

namespace TapeConsole

namespace Engine

theorem unmatched_iff_of_mustJump {e : Engine} {i : Instruction} {position : Nat}
    (h : e.Dispatches i position) (hjump : i.MustJump e.tape.read) :
    e.program.Unmatched position ↔ ∀ partner, ¬e.program.Paired position partner := by
  obtain ⟨d, rfl, -⟩ := hjump.exists_direction
  exact Program.unmatched_iff h.get?_eq

/-- A tick that carries out an instruction faults exactly at an unmatched bracket that must
jump. -/
theorem outcome_tick_eq_faulted_iff {e : Engine} (hsound : e.memo.Sound e.program)
    {i : Instruction} {position : Nat} (h : e.Dispatches i position) (fault : Fault) :
    e.tick.outcome = .faulted fault ↔
      fault = ⟨position, i.toChar⟩ ∧ e.program.Unmatched position ∧ i.MustJump e.tape.read := by
  have hgoes : ∀ {outcome : Outcome}, outcome = .dispatched i →
      ¬(e.program.Unmatched position ∧ i.MustJump e.tape.read) →
      (outcome = .faulted fault ↔ fault = ⟨position, i.toChar⟩ ∧
        e.program.Unmatched position ∧ i.MustJump e.tape.read) := by
    rintro outcome rfl hnot
    constructor
    · intro hfaulted; cases hfaulted
    · intro hboth; exact absurd hboth.2 hnot
  rw [h.tick_eq]
  cases performs (e := e.begun) hsound h.get?_eq with
  | stays _ _ hjump hperform => exact hgoes (by rw [hperform]) fun hboth => hjump hboth.2
  | writes _ hjump hperform => exact hgoes (by rw [hperform]) fun hboth => hjump hboth.2
  | waits _ hjump hperform => exact hgoes (by rw [hperform]) fun hboth => hjump hboth.2
  | jumps target hjump hpaired hperform =>
      refine hgoes (by rw [hperform]) fun hboth => ?_
      exact (unmatched_iff_of_mustJump h hjump).mp hboth.1 target hpaired
  | fails hjump halone hperform =>
      rw [hperform]
      constructor
      · intro hfaulted
        exact ⟨(Outcome.faulted.inj hfaulted).symm,
          (unmatched_iff_of_mustJump h hjump).mpr halone, hjump⟩
      · rintro ⟨rfl, -, -⟩
        rfl

/-- A matched bracket that must jump goes to its partner. -/
theorem tick_of_matched {e : Engine} (hsound : e.memo.Sound e.program) {i : Instruction}
    {position partner : Nat} (h : e.Dispatches i position) (hjump : i.MustJump e.tape.read)
    (hmatched : e.program.Matched position partner) :
    e.tick.outcome = .dispatched i ∧ e.tick.engine.ip = some partner := by
  have hpartner : e.program.Paired position partner := Program.matched_iff.mp hmatched
  rw [h.tick_eq]
  cases performs (e := e.begun) hsound h.get?_eq with
  | stays _ _ hstays => exact absurd hjump hstays
  | writes _ hstays => exact absurd hjump hstays
  | waits _ hstays => exact absurd hjump hstays
  | jumps target _ hpaired hperform =>
      rw [hperform, Program.Paired.unique hpaired hpartner]
      exact ⟨rfl, rfl⟩
  | fails _ halone => exact absurd hpartner (halone partner)

/-! ## Programs without unmatched brackets -/

/-- Where no bracket is unmatched an instruction does not fault. -/
theorem fault_dispatch_of_all_matched {e : Engine} (hsound : e.memo.Sound e.program)
    (hall : ∀ position, ¬e.program.Unmatched position) {i : Instruction} {position : Nat}
    (h : e.Dispatches i position) : e.tick.engine.fault = none := by
  have hfault : e.begun.fault = none := h.ready.fault_eq
  rw [h.tick_eq]
  cases performs (e := e.begun) hsound h.get?_eq with
  | stays _ _ _ hperform => rw [hperform]; exact hfault
  | writes _ _ hperform => rw [hperform]; exact hfault
  | waits _ _ hperform => rw [hperform]; exact hfault
  | jumps _ _ _ hperform => rw [hperform]; exact hfault
  | fails hjump halone =>
      exact absurd ((unmatched_iff_of_mustJump h hjump).mpr halone) (hall position)

/-- Where no bracket is unmatched a tick does not fault. -/
theorem tick_of_all_matched {e : Engine} (hsound : e.memo.Sound e.program)
    (hall : ∀ position, ¬e.program.Unmatched position) (hfault : e.fault = none) :
    e.tick.engine.fault = none ∧ ∀ fault, e.tick.outcome ≠ .faulted fault := by
  cases e.tick_event with
  | faulted fault hsome => cases hfault.symm.trans hsome
  | ended _ _ htick => rw [htick]; exact ⟨hfault, by simp⟩
  | waiting _ _ _ htick => rw [htick]; exact ⟨hfault, by simp⟩
  | early _ htick => rw [htick]; exact ⟨hfault, by simp⟩
  | past _ _ htick => rw [htick]; exact ⟨hfault, by simp⟩
  | due i position h =>
      refine ⟨fault_dispatch_of_all_matched hsound hall h, ?_⟩
      intro fault heq
      exact hall position ((outcome_tick_eq_faulted_iff hsound h fault).mp heq).2.1

/-- Where no bracket is unmatched no call raises a fault. -/
theorem fault_call_of_all_matched {e : Engine} (hsound : e.memo.Sound e.program)
    (hall : ∀ position, ¬e.program.Unmatched position) (hfault : e.fault = none) (c : Call) :
    (e.call c).engine.fault = none := by
  cases c with
  | tick => exact (tick_of_all_matched hsound hall hfault).1
  | deliver v =>
      simp only [call, deliver]
      split <;> exact hfault
  | reset => rfl

theorem fault_after_of_all_matched {p : Program} (hall : ∀ position, ¬p.Unmatched position)
    (calls : List Call) : ((load p).after calls).fault = none := by
  have hrun := after_induction
    (P := fun e => e.program = p ∧ e.memo.Sound e.program ∧ e.fault = none)
    (fun e c => by
      rintro ⟨rfl, hsound, hfault⟩
      exact ⟨program_call e c, memo_sound_call hsound c,
        fault_call_of_all_matched hsound hall hfault c⟩)
    calls (load p) ⟨rfl, JumpMemo.sound_blank p, rfl⟩
  exact hrun.2.2

end Engine

/-- Faults are raised exactly at unmatched brackets that must jump.  After every history, a tick
that carries out the instruction at a position faults if and only if that instruction is an
unmatched bracket that must jump; the fault names that position and that bracket; and a matched
bracket that must jump goes to its partner.  A program without unmatched brackets never faults. -/
theorem tick_faults_iff_unmatched (p : Program) (calls : List Call) :
    let e := (Engine.load p).after calls
    (∀ i position, e.Dispatches i position →
      p.get? position = some i ∧
      ((∃ fault, e.tick.outcome = .faulted fault) ↔
        p.Unmatched position ∧ i.MustJump e.tape.read) ∧
      (∀ fault, e.tick.outcome = .faulted fault → fault = ⟨position, i.toChar⟩) ∧
      ∀ partner, p.Matched position partner → i.MustJump e.tape.read →
        e.tick.outcome = .dispatched i ∧ e.tick.engine.ip = some partner) ∧
    ((∀ position, ¬p.Unmatched position) →
      e.fault = none ∧ ∀ fault, e.tick.outcome ≠ .faulted fault) := by
  intro e
  have hprogram : e.program = p := Engine.program_after (Engine.load p) calls
  have hsound : e.memo.Sound e.program := by
    rw [hprogram]
    exact Engine.memo_sound_after p calls
  constructor
  · intro i position h
    have hiff := Engine.outcome_tick_eq_faulted_iff hsound h
    rw [hprogram] at hiff
    refine ⟨hprogram ▸ h.get?_eq, ⟨?_, ?_⟩, ?_, ?_⟩
    · rintro ⟨fault, hfaulted⟩
      exact ((hiff fault).mp hfaulted).2
    · intro hunmatched
      exact ⟨_, (hiff _).mpr ⟨rfl, hunmatched⟩⟩
    · intro fault hfaulted
      exact ((hiff fault).mp hfaulted).1
    · intro partner hmatched hjump
      exact Engine.tick_of_matched hsound h hjump (hprogram ▸ hmatched)
  · intro hall
    have hfault : e.fault = none := Engine.fault_after_of_all_matched hall calls
    exact ⟨hfault, (Engine.tick_of_all_matched hsound (hprogram ▸ hall) hfault).2⟩

/-- The first of two start brackets has no partner and faults.  Without it the program is
balanced, and the jump goes to the end bracket. -/
theorem tick_faults_iff_unmatched_of_spare_start :
    (∃ fault, ((Engine.load (.ofList [.loopStart, .loopStart, .loopEnd])).after
      (List.replicate 59 .tick)).tick.outcome = .faulted fault) ∧
    ((Engine.load (.ofList [.loopStart, .loopEnd])).after
      (List.replicate 59 .tick)).tick.engine.ip = some 1 ∧
    ((Engine.load (.ofList [.loopStart, .loopEnd])).after
      (List.replicate 59 .tick)).fault = none := by
  obtain ⟨hspare, -⟩ := tick_faults_iff_unmatched (.ofList [.loopStart, .loopStart, .loopEnd])
    (List.replicate 59 .tick)
  obtain ⟨hclosed, hbalanced⟩ := tick_faults_iff_unmatched (.ofList [.loopStart, .loopEnd])
    (List.replicate 59 .tick)
  have hpairing : (Program.ofList [.loopStart, .loopEnd]).pairing = ⟨[], [(0, 1)], []⟩ := by decide
  refine ⟨?_, ?_, ?_⟩
  · exact (hspare .loopStart 0 ⟨1, by decide +kernel⟩).2.1.mpr
      ⟨.inl (by decide), by decide +kernel⟩
  · exact ((hclosed .loopStart 0 ⟨1, by decide +kernel⟩).2.2.2 1 (.inl (by decide))
      (by decide +kernel)).2
  · refine (hbalanced ?_).1
    unfold Program.Unmatched
    rw [hpairing]
    simp

end TapeConsole
