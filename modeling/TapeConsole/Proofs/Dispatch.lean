import TapeConsole.Proofs.Memo
set_option autoImplicit false

/-!
# Ticks that carry out an instruction

Most ticks only count.  A tick that carries out an instruction says so in its
record, and `Engine.Dispatches` reads the instruction and its position off that
record.  `Engine.dispatches_iff` says when a tick does it, and
`Engine.Dispatches.tick_eq` what the tick is then.

What carrying out an instruction can do is in `Engine.Performs`.  With a sound memo
there are five ways, and which brackets jump and where is said without the memo.
-/

namespace TapeConsole

/-- The instruction is a bracket that has to jump at a cell of this value. -/
def Instruction.MustJump (i : Instruction) (v : Int64) : Prop :=
  (i = .loopStart ∧ v = 0) ∨ (i = .loopEnd ∧ v ≠ 0)

instance (i : Instruction) (v : Int64) : Decidable (i.MustJump v) :=
  inferInstanceAs (Decidable (_ ∨ _))

theorem Direction.mustJump_bracket (d : Direction) (v : Int64) :
    d.bracket.MustJump v ↔ d.jumps v = true := by
  cases d <;> simp [Instruction.MustJump, bracket, jumps]

theorem Instruction.MustJump.exists_direction {i : Instruction} {v : Int64} (h : i.MustJump v) :
    ∃ d : Direction, i = d.bracket ∧ d.jumps v = true := by
  rcases h with ⟨rfl, hv⟩ | ⟨rfl, hv⟩
  · exact ⟨.forward, rfl, by simp [Direction.jumps, hv]⟩
  · exact ⟨.backward, rfl, by simp [Direction.jumps, hv]⟩

theorem Instruction.MustJump.ne_input_and_ne_output {i : Instruction} {v : Int64}
    (h : i.MustJump v) : i ≠ .input ∧ i ≠ .output := by
  rcases h with ⟨rfl, -⟩ | ⟨rfl, -⟩ <;> simp

namespace Engine

/-! ## The record of a dispatch -/

/-- The tick carries out the instruction `i` at `position`, as its record says. -/
def Dispatches (e : Engine) (i : Instruction) (position : Nat) : Prop :=
  ∃ count, .note (.dispatch count position i) ∈ e.tick.signals

/-- Carrying out an instruction makes no second record of a dispatch. -/
theorem note_dispatch_not_mem_perform (e : Engine) (i j : Instruction)
    (position count position' : Nat) :
    .note (.dispatch count position' j) ∉ (e.perform i position).signals := by
  have hbracket : ∀ d : Direction,
      .note (.dispatch count position' j) ∉ (e.perform d.bracket position).signals := by
    intro d
    cases hjumps : d.jumps e.tape.read with
    | false =>
        rw [perform_of_stays hjumps]
        simp
    | true =>
        rw [perform_of_jumps hjumps]
        unfold jump
        split <;> simp
  cases i with
  | loopStart => exact hbracket .forward
  | loopEnd => exact hbracket .backward
  | _ => simp [perform]

/-- A tick carries out the next instruction if nothing keeps the engine from it, it is due, and
the program has not come to its end. -/
theorem dispatches_iff {e : Engine} {i : Instruction} {position : Nat} :
    e.Dispatches i position ↔
      e.Ready ∧ e.clock.count.isDue = true ∧ e.nextPosition = position ∧
        e.program.get? position = some i := by
  constructor
  · rintro ⟨count, hmem⟩
    rcases e.tick_cases with ⟨_, _, h⟩ | ⟨_, _, h⟩ | ⟨_, _, _, h⟩ | ⟨_, _, h⟩ | ⟨hready, hdue, h⟩
    · simp [h] at hmem
    · simp [h] at hmem
    · simp [h] at hmem
    · simp [h] at hmem
    · rw [h] at hmem
      cases hget : e.still.program.get? e.still.nextPosition with
      | none => simp [dispatch_of_none hget] at hmem
      | some j =>
          rw [dispatch_of_some hget] at hmem
          rcases List.mem_cons.mp hmem with hfirst | hrest
          · simp only [Signal.note.injEq, Record.dispatch.injEq] at hfirst
            obtain ⟨-, rfl, rfl⟩ := hfirst
            exact ⟨hready, hdue, rfl, hget⟩
          · exact absurd hrest (note_dispatch_not_mem_perform _ _ _ _ _ _)
  · rintro ⟨hready, hdue, rfl, hget⟩
    refine ⟨e.dispatched + 1, ?_⟩
    rw [tick_of_due hready hdue, dispatch_of_some (e := e.still) hget]
    exact List.mem_cons_self

/-- The engine as it starts on the instruction that a tick carries out. -/
def begun (e : Engine) : Engine := e.still.started

@[simp] theorem tape_begun (e : Engine) : e.begun.tape = e.tape := rfl
@[simp] theorem output_begun (e : Engine) : e.begun.output = e.output := rfl
@[simp] theorem blocked_begun (e : Engine) : e.begun.blocked = e.blocked := rfl
@[simp] theorem fault_begun (e : Engine) : e.begun.fault = e.fault := rfl
@[simp] theorem dispatched_begun (e : Engine) : e.begun.dispatched = e.dispatched + 1 := rfl

/-- Apart from the record, the tick is what the instruction does. -/
theorem Dispatches.tick_eq {e : Engine} {i : Instruction} {position : Nat}
    (h : e.Dispatches i position) :
    e.tick =
      { e.begun.perform i position with
        signals := .note (.dispatch (e.dispatched + 1) position i) ::
          (e.begun.perform i position).signals } := by
  rcases dispatches_iff.mp h with ⟨hready, hdue, rfl, hget⟩
  rw [tick_of_due hready hdue, dispatch_of_some (e := e.still) hget]
  rfl

theorem Dispatches.get?_eq {e : Engine} {i : Instruction} {position : Nat}
    (h : e.Dispatches i position) : e.program.get? position = some i :=
  (dispatches_iff.mp h).2.2.2

theorem Dispatches.ready {e : Engine} {i : Instruction} {position : Nat}
    (h : e.Dispatches i position) : e.Ready := (dispatches_iff.mp h).1

/-- What a tick can find. -/
inductive TickEvent (e : Engine) : Prop where
  /-- The run has ended with a fault, which is reported again. -/
  | faulted (fault : Fault) (hfault : e.fault = some fault)
      (htick : e.tick = ⟨e, .faulted fault, []⟩)
  /-- The program has ended, and nothing happens. -/
  | ended (hfault : e.fault = none) (hhalted : e.halted = true) (htick : e.tick = ⟨e, .halted, []⟩)
  /-- A value is waited for, and the tick is counted. -/
  | waiting (hfault : e.fault = none) (hhalted : e.halted = false) (hblocked : e.blocked = true)
      (htick : e.tick = ⟨e.counted, .blocked, []⟩)
  /-- It is too early for the next instruction, and the tick is counted. -/
  | early (hready : e.Ready) (htick : e.tick = ⟨e.counted, .idle, []⟩)
  /-- There is no next instruction, and the program ends. -/
  | past (hready : e.Ready) (hget : e.program.get? e.nextPosition = none)
      (htick : e.tick = ⟨{ e.still with ip := some e.nextPosition }, .halted,
        [.note (.halted e.dispatched e.clock.speed)]⟩)
  /-- The next instruction is carried out. -/
  | due (i : Instruction) (position : Nat) (h : e.Dispatches i position)

theorem tick_event (e : Engine) : e.TickEvent := by
  rcases e.tick_cases with ⟨fault, hfault, h⟩ | ⟨hfault, hhalted, h⟩ |
    ⟨hfault, hhalted, hblocked, h⟩ | ⟨hready, -, h⟩ | ⟨hready, hdue, h⟩
  · exact .faulted fault hfault h
  · exact .ended hfault hhalted h
  · exact .waiting hfault hhalted hblocked h
  · exact .early hready h
  · cases hget : e.program.get? e.nextPosition with
    | none =>
        refine .past hready hget ?_
        rw [h, dispatch_of_none (e := e.still) hget]
        rfl
    | some i => exact .due i e.nextPosition (dispatches_iff.mpr ⟨hready, hdue, rfl, hget⟩)

/-- A tick that reports an instruction, or a fault where there was none, has carried one out. -/
theorem exists_dispatches {e : Engine}
    (h : (∃ i, e.tick.outcome = .dispatched i) ∨
      (e.fault = none ∧ ∃ fault, e.tick.outcome = .faulted fault)) :
    ∃ i position, e.Dispatches i position := by
  cases e.tick_event with
  | faulted fault hfault htick => simp [htick, hfault] at h
  | ended _ _ htick => simp [htick] at h
  | waiting _ _ _ htick => simp [htick] at h
  | early _ htick => simp [htick] at h
  | past _ _ htick => simp [htick] at h
  | due i position hdispatches => exact ⟨i, position, hdispatches⟩

/-! ## What an instruction does -/

/-- What carrying out an instruction can do. -/
inductive Performs (e : Engine) (i : Instruction) (position : Nat) : Prop where
  /-- At most the tape is changed: a move, a change of the cell, or a bracket that need not
  jump. -/
  | stays (tape : Tape) (hi : i ≠ .input ∧ i ≠ .output) (hjump : ¬i.MustJump e.tape.read)
      (hperform : e.perform i position = ⟨{ e with tape := tape }, .dispatched i, []⟩)
  /-- The character of the current cell is written. -/
  | writes (hi : i = .output) (hjump : ¬i.MustJump e.tape.read)
      (hperform : e.perform i position =
        ⟨{ e with output := e.output.push (cellChar e.tape.read) }, .dispatched i,
          [.emit (cellChar e.tape.read)]⟩)
  /-- A value is waited for. -/
  | waits (hi : i = .input) (hjump : ¬i.MustJump e.tape.read)
      (hperform : e.perform i position = ⟨{ e with blocked := true }, .dispatched i, []⟩)
  /-- A bracket goes to its partner. -/
  | jumps (target : Nat) (hjump : i.MustJump e.tape.read)
      (hpaired : e.program.Paired position target)
      (hperform : e.perform i position =
        ⟨{ e with ip := some target, memo := e.memo.link position target }, .dispatched i,
          [.note (.jump position target (e.memo.get? position).isSome)]⟩)
  /-- A bracket faults because it has no partner. -/
  | fails (hjump : i.MustJump e.tape.read) (halone : ∀ target, ¬e.program.Paired position target)
      (hperform : e.perform i position =
        ⟨{ e with fault := some ⟨position, i.toChar⟩ }, .faulted ⟨position, i.toChar⟩,
          [.note (.fault ⟨position, i.toChar⟩)]⟩)

theorem performs_bracket {e : Engine} (hsound : e.memo.Sound e.program) {position : Nat}
    {d : Direction} (hget : e.program.get? position = some d.bracket) :
    e.Performs d.bracket position := by
  cases hjumps : d.jumps e.tape.read with
  | false =>
      refine .stays e.tape ?_ ?_ (perform_of_stays hjumps)
      · cases d <;> simp [Direction.bracket]
      · rw [d.mustJump_bracket, hjumps]
        simp
  | true =>
      have hjump : d.bracket.MustJump e.tape.read := (d.mustJump_bracket _).mpr hjumps
      have hperform := (perform_of_jumps hjumps).trans (jump_eq hsound hget d.bracket)
      cases hfound : e.program.partner position d with
      | ok target =>
          rw [hfound] at hperform
          exact .jumps target hjump ((Program.partner_eq_ok_iff hget).mp hfound) hperform
      | error fault =>
          obtain rfl := Program.partner_eq_error hget hfound
          rw [hfound] at hperform
          refine .fails hjump ?_ hperform
          intro target hpaired
          rw [(Program.partner_eq_ok_iff hget).mpr hpaired] at hfound
          cases hfound

/-- An engine with a sound memo carries out an instruction of its program in one of these
ways. -/
theorem performs {e : Engine} (hsound : e.memo.Sound e.program) {i : Instruction}
    {position : Nat} (hget : e.program.get? position = some i) : e.Performs i position := by
  cases i with
  | loopStart => exact performs_bracket (d := .forward) hsound hget
  | loopEnd => exact performs_bracket (d := .backward) hsound hget
  | input => exact .waits rfl (by simp [Instruction.MustJump]) rfl
  | output => exact .writes rfl (by simp [Instruction.MustJump]) rfl
  | _ => exact .stays _ (by simp) (by simp [Instruction.MustJump]) rfl

end Engine

end TapeConsole
