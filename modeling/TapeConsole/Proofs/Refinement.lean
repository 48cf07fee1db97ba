import TapeConsole.Proofs.FlatRun
import TapeConsole.Proofs.HeadlessRun
import TapeConsole.Proofs.Schedule
set_option autoImplicit false

/-!
# Headless runs evaluate structured programs

A headless run without a limit ends well exactly if the structured program in its
source text has an evaluation, and its summary then tells the final store.

`Engine.Models` ties an engine to a place of the flat run, and
`Headless.Represents` does the same for a state of the headless run, where the
byte for an input instruction is read one pass after the instruction.  From a
state that represents a place, one pass waits for the clock, makes the step of
the flat run, or ends (`Headless.Represents.step_cases`).  Waiting makes
`Headless.State.wait` smaller, so the run does not wait for ever.  A step of the flat
run is one instruction carried out, so the two agree on their number.
-/

namespace TapeConsole

/-! ## Engines and places -/

namespace Engine

/-- The engine is about to carry out the next instruction of a flat run. -/
structure Models (e : Engine) (p : Program) (c : Point) : Prop where
  program_eq : e.program = p
  memo_sound : e.memo.Sound p
  ready : e.Ready
  position_eq : e.nextPosition = c.position
  tape_shows : e.tape.Shows c.store.tape
  output_eq : e.output = c.store.output

theorem models_load (p : Program) (input : List UInt8) :
    (load p).Models p ⟨0, { input }⟩ where
  program_eq := rfl
  memo_sound := JumpMemo.sound_blank p
  ready := ⟨rfl, rfl, rfl⟩
  position_eq := rfl
  tape_shows := Tape.shows_blank
  output_eq := rfl

namespace Models

variable {e : Engine} {p : Program} {c : Point}

theorem still (h : e.Models p c) : e.still.Models p c :=
  ⟨h.program_eq, h.memo_sound, ⟨h.ready.fault_eq, h.ready.halted_eq, h.ready.blocked_eq⟩,
    h.position_eq, h.tape_shows, h.output_eq⟩

theorem counted (h : e.Models p c) : e.counted.Models p c :=
  ⟨h.program_eq, h.memo_sound, ⟨h.ready.fault_eq, h.ready.halted_eq, h.ready.blocked_eq⟩,
    h.position_eq, h.tape_shows, h.output_eq⟩

theorem sound (h : e.Models p c) : e.memo.Sound e.program := by
  rw [h.program_eq]
  exact h.memo_sound

theorem get?_eq (h : e.Models p c) : e.program.get? e.nextPosition = p.get? c.position := by
  rw [h.program_eq, h.position_eq]

/-- What is not said about the engine after an instruction holds after every instruction. -/
theorem dispatch (h : e.Models p c) {i : Instruction} (hget : p.get? c.position = some i)
    {position : Nat} {s : Store} (hip : e.dispatch.engine.ip = some position)
    (hfault : e.dispatch.engine.fault = none) (hblocked : e.dispatch.engine.blocked = false)
    (htape : e.dispatch.engine.tape.Shows s.tape)
    (houtput : e.dispatch.engine.output = s.output) :
    e.dispatch.engine.Models p ⟨position + 1, s⟩ := by
  have hhalted := (dispatch_inside h.sound (h.get?_eq.trans hget)).2
  refine ⟨?_, ?_, ⟨hfault, hhalted, hblocked⟩, ?_, htape, houtput⟩
  · rw [program_dispatch, h.program_eq]
  · rw [← h.program_eq]
    exact memo_sound_dispatch h.sound
  · unfold nextPosition
    rw [hip]

theorem dispatch_eq (h : e.Models p c) {i : Instruction} (hget : p.get? c.position = some i) :
    e.dispatch.engine = (e.started.perform i c.position).engine ∧
      e.dispatch.outcome = (e.started.perform i c.position).outcome := by
  rw [dispatch_of_some (h.get?_eq.trans hget), h.position_eq]
  exact ⟨rfl, rfl⟩

/-- An instruction that changes only tape and output leads to the next position. -/
theorem dispatch_in_place (h : e.Models p c) {i : Instruction}
    (hget : p.get? c.position = some i) {tape : Tape} {output : String} {s : Store}
    (hperform : (e.started.perform i c.position).engine =
      { e.started with tape := tape, output := output })
    (htape : tape.Shows s.tape) (houtput : output = s.output) :
    e.dispatch.engine.Models p ⟨c.position + 1, s⟩ := by
  have hengine := (h.dispatch_eq hget).1.trans hperform
  have hip : e.dispatch.engine.ip = some c.position := by
    rw [hengine, ← h.position_eq]
    rfl
  refine h.dispatch hget hip ?_ ?_ ?_ ?_ <;> rw [hengine]
  · exact h.ready.fault_eq
  · exact h.ready.blocked_eq
  · exact htape
  · exact houtput

/-- An action other than input is carried out at once. -/
theorem dispatch_action (h : e.Models p c) {a : Action}
    (hget : p.get? c.position = some a.instruction) (hinput : a ≠ .input) :
    ∃ s, Acts a c.store s ∧ s.input = c.store.input ∧
      e.dispatch.outcome = .dispatched a.instruction ∧
      e.dispatch.engine.Models p ⟨c.position + 1, s⟩ := by
  have houtcome := (h.dispatch_eq hget).2
  have htape := h.tape_shows
  cases a with
  | right =>
      exact ⟨_, .right c.store, rfl, houtcome, h.dispatch_in_place hget rfl htape.right h.output_eq⟩
  | left =>
      exact ⟨_, .left c.store, rfl, houtcome, h.dispatch_in_place hget rfl htape.left h.output_eq⟩
  | increment =>
      exact ⟨_, .increment c.store, rfl, houtcome,
        h.dispatch_in_place hget rfl htape.increment h.output_eq⟩
  | decrement =>
      exact ⟨_, .decrement c.store, rfl, houtcome,
        h.dispatch_in_place hget rfl htape.decrement h.output_eq⟩
  | output =>
      have hprints : Prints c.store.tape.read (cellChar e.tape.read) := by
        rw [← htape.read_eq]
        exact prints_cellChar e.tape.read
      have houtput : e.output.push (cellChar e.tape.read) =
          c.store.output.push (cellChar e.tape.read) := by
        rw [h.output_eq]
      exact ⟨_, .output hprints, rfl, houtcome, h.dispatch_in_place hget rfl htape houtput⟩
  | input => exact absurd rfl hinput

/-- An input instruction makes the engine wait, and the value delivered completes it. -/
theorem dispatch_input (h : e.Models p c) (hget : p.get? c.position = some .input) :
    e.dispatch.outcome = .dispatched .input ∧ e.dispatch.engine.blocked = true ∧
      ∀ (v : Int64) (rest : List UInt8), (e.dispatch.engine.deliver v).1.Models p
        ⟨c.position + 1, { c.store with tape := c.store.tape.write v, input := rest }⟩ := by
  obtain ⟨hengine, houtcome⟩ := h.dispatch_eq hget
  have hblocked : e.dispatch.engine.blocked = true := by rw [hengine]; rfl
  refine ⟨houtcome, hblocked, ?_⟩
  intro v rest
  have hhalted := (dispatch_inside h.sound (h.get?_eq.trans hget)).2
  rw [deliver_of_blocked hblocked]
  rw [hengine] at hhalted ⊢
  refine ⟨h.program_eq, h.memo_sound, ⟨h.ready.fault_eq, hhalted, rfl⟩, ?_,
    h.tape_shows.write v, h.output_eq⟩
  exact congrArg (· + 1) h.position_eq

/-- A bracket stays, jumps to its partner, or ends the run if it has none. -/
theorem dispatch_bracket (h : e.Models p c) {d : Direction}
    (hget : p.get? c.position = some d.bracket) :
    (∃ position, p.Moves c ⟨position, c.store⟩ ∧ e.dispatch.outcome = .dispatched d.bracket ∧
      e.dispatch.engine.Models p ⟨position, c.store⟩) ∨
    ((∃ fault, e.dispatch.outcome = .faulted fault) ∧ ∀ c', ¬ p.Moves c c') := by
  obtain ⟨hengine, houtcome⟩ := h.dispatch_eq hget
  have hread : e.started.tape.read = c.store.tape.read := h.tape_shows.read_eq
  cases hjumps : d.jumps c.store.tape.read with
  | false =>
      have hstays : e.started.perform d.bracket c.position =
          ⟨e.started, .dispatched d.bracket, []⟩ := perform_of_stays (hread ▸ hjumps)
      rw [hstays] at houtcome
      exact .inl ⟨c.position + 1, .stay hget hjumps, houtcome,
        h.dispatch_in_place hget (congrArg Step.engine hstays) h.tape_shows h.output_eq⟩
  | true =>
      have hsound : e.started.memo.Sound e.started.program := h.sound
      have hhere : e.started.program.get? c.position = some d.bracket := by
        rw [program_started, h.program_eq, hget]
      rw [perform_of_jumps (hread ▸ hjumps), jump_eq hsound hhere, program_started,
        h.program_eq] at hengine houtcome
      cases hpartner : p.partner c.position d with
      | ok target =>
          rw [hpartner] at hengine houtcome
          have hpair := (Program.partner_eq_ok_iff hget).mp hpartner
          refine .inl ⟨target + 1, .jump hget hjumps hpair, houtcome,
            h.dispatch hget ?_ ?_ ?_ ?_ ?_⟩ <;> rw [hengine]
          exacts [h.ready.fault_eq, h.ready.blocked_eq, h.tape_shows, h.output_eq]
      | error fault =>
          rw [hpartner] at houtcome
          refine .inr ⟨⟨fault, houtcome⟩, ?_⟩
          intro c' hmove
          cases hmove with
          | @act _ a _ _ hget' _ =>
              exact a.instruction_ne_bracket d (Option.some.inj (hget'.symm.trans hget))
          | stay hget' hstays =>
              obtain rfl := Direction.bracket_injective (Option.some.inj (hget.symm.trans hget'))
              cases hstays.symm.trans hjumps
          | jump _ _ hpair =>
              cases hpartner.symm.trans ((Program.partner_eq_ok_iff hget).mpr hpair)

/-- Past the last instruction the engine halts and leaves tape and output as they are. -/
theorem dispatch_end (h : e.Models p c) (hget : p.get? c.position = none) :
    e.dispatch.outcome = .halted ∧ e.dispatch.engine.tape.Shows c.store.tape ∧
      e.dispatch.engine.output = c.store.output := by
  rw [dispatch_of_none (h.get?_eq.trans hget)]
  exact ⟨rfl, h.tape_shows, h.output_eq⟩

end Models

end Engine

namespace Headless

/-! ## States and places -/

/-- The ticks of a run that pass before the next instruction is due. -/
def State.wait (s : State) : Nat :=
  s.machine.engine.clock.threshold - s.machine.engine.clock.acc

/-- The state of a headless run is at a place of the flat run.  If an input instruction has just
been carried out, the place is the one after it, and the byte it reads is still in the reader. -/
inductive Represents (p : Program) : State → Point → Prop where
  | ready {s : State} {c : Point} (hmodels : s.machine.engine.Models p c)
      (hreader : s.reader = c.store.input.map .byte) : Represents p s c
  | waiting {s : State} {c : Point} {v : Int64} (hblocked : s.machine.engine.blocked = true)
      (hmodels : (s.machine.engine.deliver v).1.Models p c)
      (hnext : ReadEvent.next s.reader = (.ok v, c.store.input.map .byte)) : Represents p s c

/-- What a summary says of the store in which an evaluation has ended. -/
structure Summary.Tells (summary : Summary) (final : Store) : Prop where
  output_eq : summary.output = final.output
  cells_eq : summary.cells = final.tape.window
  pointer_eq : (summary.pointer : Int) = final.tape.head - final.tape.low

namespace Represents

variable {p : Program} {s : State} {c : Point}

theorem start (source : String) (input : List UInt8) (writer : ByteWriter) :
    Represents (.parse source) (.start source (input.map .byte) writer) ⟨0, { input }⟩ :=
  .ready (Engine.models_load _ input) rfl

/-- A pass is a tick of a machine that waits for nothing but the clock. -/
theorem exists_tick (h : Represents p s c) :
    ∃ t : State, s.step none = t.tick ∧ t.wait = s.wait ∧
      t.machine.engine.dispatched = s.machine.engine.dispatched ∧ t.machine.engine.Models p c ∧
      t.reader = c.store.input.map .byte := by
  cases h with
  | ready hmodels hreader =>
      exact ⟨s, State.step_of_not_blocked hmodels.ready.blocked_eq, rfl, rfl, hmodels, hreader⟩
  | @waiting v hblocked hmodels hnext =>
      have hclock : (s.machine.engine.deliver v).1.clock = s.machine.engine.clock := by
        rw [Engine.deliver_of_blocked hblocked]
      refine ⟨s.supplied v _, State.step_of_blocked hblocked hnext, ?_, ?_, ?_, rfl⟩
      · unfold State.wait
        rw [State.engine_supplied, hclock]
      · rw [State.engine_supplied, Engine.deliver_of_blocked hblocked]
      · rw [State.engine_supplied]
        exact hmodels

/-- A tick that comes too early for the next instruction makes the wait shorter. -/
theorem tick_of_early (hmodels : s.machine.engine.Models p c)
    (hreader : s.reader = c.store.input.map .byte)
    (hdue : s.machine.engine.clock.count.isDue = false) :
    s.tick = ⟨s.ticked, none⟩ ∧ Represents p s.ticked c ∧
      s.ticked.machine.engine.dispatched = s.machine.engine.dispatched ∧
      s.ticked.wait < s.wait := by
  have htick := Engine.tick_of_early hmodels.ready hdue
  have hengine : s.ticked.machine.engine = s.machine.engine.counted := by
    rw [State.engine_ticked, htick]
  have hlt : s.machine.engine.clock.acc + 1 < s.machine.engine.clock.threshold :=
    Nat.not_le.mp (of_decide_eq_false hdue)
  refine ⟨State.tick_of_idle (by rw [htick]), .ready ?_ hreader, ?_, ?_⟩
  · rw [hengine]
    exact hmodels.counted
  · rw [hengine]
    rfl
  · have hacc : s.machine.engine.counted.clock.acc = s.machine.engine.clock.acc + 1 := rfl
    have hthreshold : s.machine.engine.counted.clock.threshold =
        s.machine.engine.clock.threshold := rfl
    unfold State.wait
    rw [hengine, hacc, hthreshold]
    omega

/-- What a tick does when the next instruction is due: it makes the step of the flat run, ends
the run well past the last instruction, or fails where the flat run has no step. -/
theorem tick_of_due (hmodels : s.machine.engine.Models p c)
    (hreader : s.reader = c.store.input.map .byte)
    (hdue : s.machine.engine.clock.count.isDue = true) :
    (∃ c', s.tick = ⟨s.ticked, none⟩ ∧ p.Moves c c' ∧
      s.ticked.machine.engine.dispatched = s.machine.engine.dispatched + 1 ∧
      Represents p s.ticked c') ∨
    (s.tick = ⟨s.ticked, some (.ok s.ticked.summary)⟩ ∧ p.get? c.position = none ∧
      s.ticked.summary.dispatched = s.machine.engine.dispatched ∧
      s.ticked.summary.Tells c.store) ∨
    (∃ failure, s.tick = ⟨s.ticked, some (.error failure)⟩ ∧ p.get? c.position ≠ none ∧
      ∀ c', ¬ p.Moves c c') := by
  have htick := Engine.tick_of_due hmodels.ready hdue
  have hengine : s.ticked.machine.engine = s.machine.engine.still.dispatch.engine := by
    rw [State.engine_ticked, htick]
  have hstill := hmodels.still
  cases hget : p.get? c.position with
  | none =>
      obtain ⟨houtcome, htape, houtput⟩ := hstill.dispatch_end hget
      rw [← hengine] at htape houtput
      have hcount := (Engine.dispatch_past_end (hstill.get?_eq.trans hget)).1
      rw [← hengine] at hcount
      exact .inr (.inl ⟨State.tick_of_halted (by rw [htick, houtcome]), rfl, hcount,
        houtput, htape.cells_eq, htape.pointer_eq⟩)
  | some i =>
      have hcount := (Engine.dispatch_inside hstill.sound (hstill.get?_eq.trans hget)).1
      rw [← hengine] at hcount
      obtain ⟨a, rfl⟩ | ⟨d, rfl⟩ := i.action_or_bracket
      · by_cases hinput : a = .input
        · subst hinput
          obtain ⟨houtcome, hblocked, hdeliver⟩ := hstill.dispatch_input hget
          rw [← hengine] at hblocked hdeliver
          have hgoing := State.tick_of_dispatched (s := s) (by rw [htick, houtcome])
          -- The place after the instruction depends on whether there is a byte left.
          cases hbytes : c.store.input with
          | nil =>
              refine .inl ⟨_, hgoing, .act hget (.ended hbytes), hcount,
                .waiting hblocked (hdeliver 0 c.store.input) ?_⟩
              rw [State.reader_ticked, hreader, hbytes]
              rfl
          | cons b rest =>
              refine .inl ⟨_, hgoing, .act hget (.byte hbytes), hcount,
                .waiting hblocked (hdeliver (Int64.ofNat b.toNat) rest) ?_⟩
              rw [State.reader_ticked, hreader, hbytes]
              rfl
        · obtain ⟨s', hact, hsame, houtcome, hnext⟩ := hstill.dispatch_action hget hinput
          rw [← hengine] at hnext
          refine .inl ⟨_, State.tick_of_dispatched (by rw [htick, houtcome]),
            .act hget hact, hcount, .ready hnext ?_⟩
          rw [State.reader_ticked, hreader, hsame]
      · obtain ⟨position, hmove, houtcome, hnext⟩ | ⟨⟨fault, houtcome⟩, hstuck⟩ :=
          hstill.dispatch_bracket hget
        · rw [← hengine] at hnext
          exact .inl ⟨_, State.tick_of_dispatched (by rw [htick, houtcome]), hmove, hcount,
            .ready hnext hreader⟩
        · exact .inr (.inr ⟨_, State.tick_of_faulted (by rw [htick, houtcome]),
            Option.some_ne_none _, hstuck⟩)

/-- What one pass does: it waits, or it does what a tick does when an instruction is due. -/
theorem step_cases (h : Represents p s c) :
    (∃ s', s.step none = ⟨s', none⟩ ∧ Represents p s' c ∧
      s'.machine.engine.dispatched = s.machine.engine.dispatched ∧ s'.wait < s.wait) ∨
    (∃ s' c', s.step none = ⟨s', none⟩ ∧ p.Moves c c' ∧
      s'.machine.engine.dispatched = s.machine.engine.dispatched + 1 ∧ Represents p s' c') ∨
    (∃ s', s.step none = ⟨s', some (.ok s'.summary)⟩ ∧ p.get? c.position = none ∧
      s'.summary.dispatched = s.machine.engine.dispatched ∧ s'.summary.Tells c.store) ∨
    (∃ s' failure, s.step none = ⟨s', some (.error failure)⟩ ∧ p.get? c.position ≠ none ∧
      ∀ c', ¬ p.Moves c c') := by
  obtain ⟨t, hstep, hwait, hcount, hmodels, hreader⟩ := h.exists_tick
  rw [hstep, ← hwait, ← hcount]
  cases hdue : t.machine.engine.clock.count.isDue with
  | false => exact .inl ⟨t.ticked, tick_of_early hmodels hreader hdue⟩
  | true =>
      right
      obtain ⟨c', hmove⟩ | hend | hfail := tick_of_due hmodels hreader hdue
      · exact .inl ⟨t.ticked, c', hmove⟩
      · exact .inr (.inl ⟨t.ticked, hend⟩)
      · exact .inr (.inr ⟨t.ticked, hfail⟩)

/-! ## Whole runs -/

/-- The same for the run as a whole, once the wait is over. -/
theorem ends_cases (h : Represents p s c) :
    (∃ t c', (∀ s' result, Ends none t s' result → Ends none s s' result) ∧ p.Moves c c' ∧
      t.machine.engine.dispatched = s.machine.engine.dispatched + 1 ∧ Represents p t c') ∨
    (∃ s', Ends none s s' (.ok s'.summary) ∧ p.get? c.position = none ∧
      s'.summary.dispatched = s.machine.engine.dispatched ∧ s'.summary.Tells c.store) ∨
    (p.get? c.position ≠ none ∧ ∀ c', ¬ p.Moves c c') := by
  induction hwait : s.wait using Nat.strongRecOn generalizing s with
  | ind wait ih =>
      obtain ⟨t, hstep, h', hcount, hlt⟩ | ⟨t, c', hstep, hmove⟩ | ⟨t, hstep, hend⟩ |
        ⟨t, failure, _, hstuck⟩ := h.step_cases
      · rw [← hcount]
        obtain ⟨u, c', hends, hmove⟩ | ⟨u, hends, hend⟩ | hstuck :=
          ih t.wait (hwait ▸ hlt) h' rfl
        · refine .inl ⟨u, c', ?_, hmove⟩
          intro s' result hu
          exact ends_of_going hstep (hends s' result hu)
        · exact .inr (.inl ⟨u, ends_of_going hstep hends, hend⟩)
        · exact .inr (.inr hstuck)
      · exact .inl ⟨t, c', fun _ _ => ends_of_going hstep, hmove⟩
      · exact .inr (.inl ⟨t, ends_of_ended hstep, hend⟩)
      · exact .inr (.inr hstuck)

/-- If the flat run halts, the headless run ends well and carries out as many instructions as the
flat run makes steps. -/
theorem ends_of_haltsIn {n : Nat} {final : Store} (hrun : p.HaltsIn n c final) :
    ∀ s, Represents p s c →
      ∃ s' summary, Ends none s s' (.ok summary) ∧
        summary.dispatched = s.machine.engine.dispatched + n ∧ summary.Tells final := by
  induction hrun with
  | done hget =>
      intro s h
      obtain ⟨t, c', -, hmove, -⟩ | ⟨t, hends, -, hcount, htells⟩ | ⟨hsome, -⟩ := h.ends_cases
      · obtain ⟨i, hsome⟩ := hmove.exists_get?
        cases hget.symm.trans hsome
      · exact ⟨t, t.summary, hends, hcount, htells⟩
      · exact absurd hget hsome
  | next hmove _ ih =>
      intro s h
      obtain ⟨t, c', hends, hmove', hcount, h'⟩ | ⟨t, -, hget, -⟩ | ⟨-, hstuck⟩ := h.ends_cases
      · obtain rfl := hmove.unique hmove'
        obtain ⟨s', summary, ht, hrest, htells⟩ := ih t h'
        exact ⟨s', summary, hends s' _ ht, by omega, htells⟩
      · obtain ⟨i, hsome⟩ := hmove.exists_get?
        cases hget.symm.trans hsome
      · exact absurd hmove (hstuck _)

theorem exists_ends_of_haltsIn {n : Nat} {final : Store} (hrun : p.HaltsIn n c final) (s : State)
    (h : Represents p s c) : ∃ s' summary, Ends none s s' (.ok summary) ∧ summary.Tells final := by
  obtain ⟨s', summary, hends, -, htells⟩ := ends_of_haltsIn hrun s h
  exact ⟨s', summary, hends, htells⟩

/-- If the headless run ends, the flat run halts, or is stuck if the run has failed.  The
induction is on the passes. -/
theorem haltsIn_or_stuck_of_ends {s' : State} {result : Except Failure Summary}
    (h : Represents p s c) (hends : Ends none s s' result) :
    (∃ summary n final, result = .ok summary ∧ p.HaltsIn n c final ∧ summary.Tells final) ∨
    ∃ failure c', result = .error failure ∧ p.get? c'.position ≠ none ∧ ∀ c'', ¬ p.Moves c' c'' := by
  obtain ⟨fuel, hfuel⟩ := hends
  induction fuel generalizing s c with
  | zero => cases hfuel
  | succ fuel ih =>
      obtain ⟨t, hstep, h', -⟩ | ⟨t, c', hstep, hmove, -, h'⟩ | ⟨t, hstep, hget, -, htells⟩ |
        ⟨t, failure, hstep, hstuck⟩ := h.step_cases
      · rw [runFor_of_going hstep] at hfuel
        exact ih h' hfuel
      · rw [runFor_of_going hstep] at hfuel
        obtain ⟨summary, n, final, hok, hhalts, htells⟩ | hstuck := ih h' hfuel
        · exact .inl ⟨summary, n + 1, final, hok, .next hmove hhalts, htells⟩
        · exact .inr hstuck
      · rw [runFor_of_ended hstep] at hfuel
        obtain ⟨-, rfl⟩ := Prod.mk.inj (Option.some.inj hfuel)
        exact .inl ⟨t.summary, 0, c.store, rfl, .done hget, htells⟩
      · rw [runFor_of_ended hstep] at hfuel
        obtain ⟨-, rfl⟩ := Prod.mk.inj (Option.some.inj hfuel)
        exact .inr ⟨failure, c, rfl, hstuck⟩

end Represents

end Headless

/-! ## Source texts -/

/-- Only the characters of instructions count in a source text. -/
theorem Command.toList_parse {commands : List Command} {source : String}
    (hsource : source.toList.filter (fun c => (Instruction.ofChar? c).isSome) = text commands) :
    (Program.parse source).toList = codes commands := by
  have hfilter : ∀ cs : List Char,
      cs.filterMap Instruction.ofChar? =
        (cs.filter (fun c => (Instruction.ofChar? c).isSome)).filterMap Instruction.ofChar? := by
    intro cs
    induction cs with
    | nil => rfl
    | cons c rest ih => cases hchar : Instruction.ofChar? c <;> simp [hchar, ih]
  rw [Program.parse, Program.toList_ofList, hfilter, hsource, text,
    Instruction.filterMap_map_toChar]

/-- A headless run without a limit ends well exactly if the structured program in its source text
has an evaluation, and it never fails, so it goes on for ever if there is none.  Its summary tells
the output of the evaluation, the cells between the outermost positions the head has been at, and
where among them the head is. -/
theorem ends_iff_evaluates (commands : List Command) (source : String) (input : List UInt8)
    (writer : ByteWriter)
    (hsource : source.toList.filter (fun c => (Instruction.ofChar? c).isSome) =
      Command.text commands) :
    let start := Headless.State.start source (input.map .byte) writer
    ((∃ s summary, Headless.Ends none start s (.ok summary)) ↔
      ∃ final, Evaluates commands { input } final) ∧
    (∀ s failure, ¬ Headless.Ends none start s (.error failure)) ∧
    ∀ s summary final, Headless.Ends none start s (.ok summary) →
      Evaluates commands { input } final →
        summary.output = final.output ∧ summary.cells = final.tape.window ∧
          (summary.pointer : Int) = final.tape.head - final.tape.low := by
  intro start
  have hcode := Command.toList_parse hsource
  have hstart := Headless.Represents.start source input writer
  have hbalanced : Balanced (Program.parse source).toList := by
    rw [hcode]
    exact Command.balanced_codes commands
  have hends : ∀ final, Evaluates commands { input } final →
      ∃ s summary, Headless.Ends none start s (.ok summary) ∧ summary.Tells final := by
    intro final heval
    obtain ⟨n, hhalts⟩ := (Command.haltsIn_iff_evaluates hcode).mpr heval
    exact Headless.Represents.exists_ends_of_haltsIn hhalts start hstart
  refine ⟨⟨?_, ?_⟩, ?_, ?_⟩
  · rintro ⟨s, summary, hrun⟩
    obtain ⟨_, n, final, -, hhalts, -⟩ | ⟨_, _, herror, -⟩ := hstart.haltsIn_or_stuck_of_ends hrun
    · exact ⟨final, (Command.haltsIn_iff_evaluates hcode).mp ⟨n, hhalts⟩⟩
    · cases herror
  · rintro ⟨final, heval⟩
    obtain ⟨s, summary, hrun, -⟩ := hends final heval
    exact ⟨s, summary, hrun⟩
  · intro s failure hrun
    obtain ⟨_, _, _, hok, -⟩ | ⟨_, c, -, hsome, hstuck⟩ := hstart.haltsIn_or_stuck_of_ends hrun
    · cases hok
    · obtain ⟨c', hmove⟩ := Program.exists_move hbalanced hsome
      exact hstuck c' hmove
  · intro s summary final hrun heval
    obtain ⟨s', summary', hrun', htells⟩ := hends final heval
    obtain ⟨-, hsame⟩ := hrun'.unique hrun
    obtain rfl := Except.ok.inj hsame
    exact ⟨htells.output_eq, htells.cells_eq, htells.pointer_eq⟩

/-- A program that goes left of where it starts, copies a byte and stops at the end of the
input. -/
theorem ends_of_echo :
    ∃ s summary, Headless.Ends none (.start "echo: <,[.>,]" [.byte 104] {}) s (.ok summary) ∧
      summary.output = "h" ∧ summary.cells = [104, 0] ∧ summary.pointer = 1 := by
  have heval : Evaluates
      [.act .left, .act .input, .loop [.act .output, .act .right, .act .input]]
      { input := [104] } _ :=
    .act (.left _) (.act (.byte rfl) (.turn (by decide)
      (.act (.output (c := 'h') (.inl rfl)) (.act (.right _) (.act (.ended rfl) (.nil _))))
      (.skip rfl (.nil _))))
  obtain ⟨hends, -, htells⟩ :=
    ends_iff_evaluates
      [.act .left, .act .input, .loop [.act .output, .act .right, .act .input]]
      "echo: <,[.>,]" [104] {} (by decide)
  obtain ⟨s, summary, hrun⟩ := hends.mpr ⟨_, heval⟩
  obtain ⟨houtput, hcells, hpointer⟩ := htells s summary _ hrun heval
  refine ⟨s, summary, hrun, houtput, hcells, ?_⟩
  exact Int.ofNat.inj hpointer

end TapeConsole
