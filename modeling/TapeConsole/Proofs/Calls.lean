import TapeConsole.View
set_option autoImplicit false

/-!
# Calls of an engine

Everything that is ever done to an engine is one of three calls: a tick, the
delivery of a value, a reset.  A history is a list of calls in the order in
which they reach the engine, however many clients make them.

The file also says once what a tick can do.  `Engine.tick_cases` lists its five
cases; in the last of them an instruction is due, and the tick is `dispatch` on
the engine with its count of ticks set back (`Engine.still`).  What carrying out
an instruction can do is in `Engine.perform_cases`.  Later files go by these
cases and do not open `tick` again.
-/

namespace TapeConsole

/-! ## The two brackets -/

/-- The bracket a search in this direction starts from. -/
def Direction.bracket : Direction → Instruction
  | .forward => .loopStart
  | .backward => .loopEnd

/-- Whether the bracket of this direction jumps at a cell of this value. -/
def Direction.jumps : Direction → Int64 → Bool
  | .forward, v => v = 0
  | .backward, v => v ≠ 0

/-! ## The five cases of a tick -/

namespace Engine

/-- The same engine with the ticks since the last instruction forgotten. -/
def still (e : Engine) : Engine := { e with clock := e.clock.restart }

/-- The same engine with one more tick counted. -/
def counted (e : Engine) : Engine := { e with clock := e.clock.count }

@[simp] theorem program_still (e : Engine) : e.still.program = e.program := rfl
@[simp] theorem memo_still (e : Engine) : e.still.memo = e.memo := rfl
@[simp] theorem blocked_still (e : Engine) : e.still.blocked = e.blocked := rfl
@[simp] theorem dispatched_still (e : Engine) : e.still.dispatched = e.dispatched := rfl
@[simp] theorem nextPosition_still (e : Engine) : e.still.nextPosition = e.nextPosition := rfl
@[simp] theorem still_counted (e : Engine) : e.counted.still = e.still := rfl

/-- Nothing keeps the engine from carrying out its next instruction but the clock. -/
structure Ready (e : Engine) : Prop where
  /-- The run has not ended with a fault. -/
  fault_eq : e.fault = none
  /-- The program has not ended. -/
  halted_eq : e.halted = false
  /-- No value is waited for. -/
  blocked_eq : e.blocked = false

/-- The engine as it starts on its next instruction: that one is current, and it counts. -/
def started (e : Engine) : Engine :=
  { e with
    ip := some e.nextPosition
    clock := e.clock.accelerate
    dispatched := e.dispatched + 1 }

@[simp] theorem program_started (e : Engine) : e.started.program = e.program := rfl
@[simp] theorem ip_started (e : Engine) : e.started.ip = some e.nextPosition := rfl

theorem dispatch_of_none {e : Engine} (h : e.program.get? e.nextPosition = none) :
    e.dispatch = ⟨{ e with ip := some e.nextPosition }, .halted,
      [.note (.halted e.dispatched e.clock.speed)]⟩ := by
  simp [dispatch, h]

theorem dispatch_of_some {e : Engine} {i : Instruction}
    (h : e.program.get? e.nextPosition = some i) :
    e.dispatch =
      { e.started.perform i e.nextPosition with
        signals := .note (.dispatch (e.dispatched + 1) e.nextPosition i) ::
          (e.started.perform i e.nextPosition).signals } := by
  simp [dispatch, h, started]

/-- A bracket that jumps at the current cell goes to its partner. -/
theorem perform_of_jumps {e : Engine} {direction : Direction} {position : Nat}
    (h : direction.jumps e.tape.read = true) :
    e.perform direction.bracket position = e.jump direction.bracket position direction := by
  cases direction with
  | forward =>
      have hread : e.tape.read = 0 := by simpa [Direction.jumps] using h
      simp [perform, Direction.bracket, hread]
  | backward =>
      have hread : e.tape.read ≠ 0 := by simpa [Direction.jumps] using h
      simp [perform, Direction.bracket, hread]

/-- A bracket that does not jump at the current cell does nothing. -/
theorem perform_of_stays {e : Engine} {direction : Direction} {position : Nat}
    (h : direction.jumps e.tape.read = false) :
    e.perform direction.bracket position = ⟨e, .dispatched direction.bracket, []⟩ := by
  cases direction with
  | forward =>
      have hread : e.tape.read ≠ 0 := by simpa [Direction.jumps] using h
      simp [perform, Direction.bracket, hread]
  | backward =>
      have hread : e.tape.read = 0 := by simpa [Direction.jumps] using h
      simp [perform, Direction.bracket, hread]

theorem jump_still (e : Engine) (i : Instruction) (source : Nat) (direction : Direction) :
    e.still.jump i source direction =
      { e.jump i source direction with engine := (e.jump i source direction).engine.still } := by
  simp only [jump, memo_still, program_still]
  cases e.memo.resolve e.program source direction <;> rfl

/-- Carrying out an instruction does not look at the count of ticks. -/
theorem perform_still (e : Engine) (i : Instruction) (position : Nat) :
    e.still.perform i position =
      { e.perform i position with engine := (e.perform i position).engine.still } := by
  have hbracket : ∀ direction : Direction,
      e.still.perform direction.bracket position =
        { e.perform direction.bracket position with
          engine := (e.perform direction.bracket position).engine.still } := by
    intro direction
    cases hjumps : direction.jumps e.tape.read with
    | true =>
        rw [perform_of_jumps hjumps, perform_of_jumps (e := e.still) hjumps, jump_still]
    | false => rw [perform_of_stays hjumps, perform_of_stays (e := e.still) hjumps]
  cases i with
  | loopStart => exact hbracket .forward
  | loopEnd => exact hbracket .backward
  | _ => rfl

/-- It does not matter whether the count is set back before or after a dispatch. -/
theorem dispatch_still (e : Engine) :
    e.still.dispatch = { e.dispatch with engine := e.dispatch.engine.still } := by
  cases hget : e.program.get? e.nextPosition with
  | none =>
      have hstill : e.still.program.get? e.still.nextPosition = none := hget
      rw [dispatch_of_none hget, dispatch_of_none hstill]
      rfl
  | some i =>
      have hstill : e.still.program.get? e.still.nextPosition = some i := hget
      have hstarted : e.still.started = e.started.still := rfl
      rw [dispatch_of_some hget, dispatch_of_some hstill, hstarted, nextPosition_still,
        perform_still]
      rfl

/-- What an instruction can do: a bracket jumps, or only the tape, the output and the wait for a
value are changed. -/
theorem perform_cases (e : Engine) (i : Instruction) (position : Nat) :
    (∃ direction : Direction, i = direction.bracket ∧
      e.perform i position = e.jump i position direction) ∨
    ∃ tape blocked output signals, e.perform i position =
      ⟨{ e with tape := tape, blocked := blocked, output := output }, .dispatched i, signals⟩ := by
  have hbracket : ∀ direction : Direction,
      e.perform direction.bracket position = e.jump direction.bracket position direction ∨
        e.perform direction.bracket position = ⟨e, .dispatched direction.bracket, []⟩ := by
    intro direction
    cases hjumps : direction.jumps e.tape.read with
    | true => exact .inl (perform_of_jumps hjumps)
    | false => exact .inr (perform_of_stays hjumps)
  cases i with
  | loopStart =>
      cases hbracket .forward with
      | inl h => exact .inl ⟨.forward, rfl, h⟩
      | inr h => exact .inr ⟨_, _, _, _, h⟩
  | loopEnd =>
      cases hbracket .backward with
      | inl h => exact .inl ⟨.backward, rfl, h⟩
      | inr h => exact .inr ⟨_, _, _, _, h⟩
  | _ => exact .inr ⟨_, _, _, _, rfl⟩

theorem outcome_perform (e : Engine) (i : Instruction) (position : Nat) :
    (e.perform i position).outcome = .dispatched i ∨
      ∃ fault, (e.perform i position).outcome = .faulted fault := by
  obtain ⟨direction, -, h⟩ | ⟨_, _, _, _, h⟩ := e.perform_cases i position
  · rw [h, jump]
    cases e.memo.resolve e.program position direction with
    | ok found => exact .inl rfl
    | error fault => exact .inr ⟨fault, rfl⟩
  · rw [h]
    exact .inl rfl

/-- A dispatch is never idle: it carries out an instruction, faults at it, or halts. -/
theorem outcome_dispatch (e : Engine) :
    e.dispatch.outcome = .halted ∨ (∃ i, e.dispatch.outcome = .dispatched i) ∨
      ∃ fault, e.dispatch.outcome = .faulted fault := by
  cases hget : e.program.get? e.nextPosition with
  | none =>
      rw [dispatch_of_none hget]
      exact .inl rfl
  | some i =>
      rw [dispatch_of_some hget]
      cases outcome_perform e.started i e.nextPosition with
      | inl h => exact .inr (.inl ⟨i, h⟩)
      | inr h => exact .inr (.inr h)

theorem tick_of_fault {e : Engine} {fault : Fault} (h : e.fault = some fault) :
    e.tick = ⟨e, .faulted fault, []⟩ := by
  simp [tick, h]

theorem tick_of_halted {e : Engine} (hfault : e.fault = none) (hhalted : e.halted = true) :
    e.tick = ⟨e, .halted, []⟩ := by
  simp [tick, hfault, hhalted]

theorem tick_of_blocked {e : Engine} (hfault : e.fault = none) (hhalted : e.halted = false)
    (hblocked : e.blocked = true) : e.tick = ⟨e.counted, .blocked, []⟩ := by
  simp [tick, hfault, hhalted, hblocked, counted]

theorem tick_of_early {e : Engine} (hready : e.Ready) (hdue : e.clock.count.isDue = false) :
    e.tick = ⟨e.counted, .idle, []⟩ := by
  simp [tick, hready.fault_eq, hready.halted_eq, hready.blocked_eq, hdue, counted]

theorem tick_of_due {e : Engine} (hready : e.Ready) (hdue : e.clock.count.isDue = true) :
    e.tick = e.still.dispatch := by
  rw [← still_counted, dispatch_still]
  simp [tick, hready.fault_eq, hready.halted_eq, hready.blocked_eq, hdue, counted, still]

/-- What a tick can do: nothing after the end, count while a value is waited for, count until
an instruction is due, or carry out that instruction. -/
theorem tick_cases (e : Engine) :
    (∃ fault, e.fault = some fault ∧ e.tick = ⟨e, .faulted fault, []⟩) ∨
    (e.fault = none ∧ e.halted = true ∧ e.tick = ⟨e, .halted, []⟩) ∨
    (e.fault = none ∧ e.halted = false ∧ e.blocked = true ∧
      e.tick = ⟨e.counted, .blocked, []⟩) ∨
    (e.Ready ∧ e.clock.count.isDue = false ∧ e.tick = ⟨e.counted, .idle, []⟩) ∨
    (e.Ready ∧ e.clock.count.isDue = true ∧ e.tick = e.still.dispatch) := by
  cases hfault : e.fault with
  | some fault => exact .inl ⟨fault, rfl, tick_of_fault hfault⟩
  | none =>
      cases hhalted : e.halted with
      | true => exact .inr (.inl ⟨rfl, rfl, tick_of_halted hfault hhalted⟩)
      | false =>
          cases hblocked : e.blocked with
          | true =>
              exact .inr (.inr (.inl ⟨rfl, rfl, rfl, tick_of_blocked hfault hhalted hblocked⟩))
          | false =>
              have hready : e.Ready := ⟨hfault, hhalted, hblocked⟩
              cases hdue : e.clock.count.isDue with
              | false => exact .inr (.inr (.inr (.inl ⟨hready, rfl, tick_of_early hready hdue⟩)))
              | true => exact .inr (.inr (.inr (.inr ⟨hready, rfl, tick_of_due hready hdue⟩)))

theorem deliver_of_blocked {e : Engine} (h : e.blocked = true) (v : Int64) :
    e.deliver v =
      ({ e with tape := e.tape.write v, blocked := false }, true, [.note (.delivered v)]) := by
  simp [deliver, h]

theorem deliver_of_not_blocked {e : Engine} (h : e.blocked = false) (v : Int64) :
    e.deliver v = (e, false, []) := by
  simp [deliver, h]

end Engine

/-! ## Histories -/

/-- What a client can ask of an engine. -/
inductive Call where
  /-- One tick. -/
  | tick
  /-- A value for a cell that waits for one. -/
  | deliver (v : Int64)
  /-- The program again from the start. -/
  | reset
  deriving DecidableEq, Repr, Inhabited

/-- What a client is told. -/
inductive Answer where
  /-- What a tick did. -/
  | outcome (outcome : Outcome)
  /-- Whether a value was taken. -/
  | taken (taken : Bool)
  /-- That the engine has been reset. -/
  | restarted
  deriving DecidableEq, Repr, Inhabited

/-- The value a call has put into a cell, none or one. -/
def Call.taken : Call → Answer → List Int64
  | .deliver v, .taken true => [v]
  | _, _ => []

@[simp] theorem Call.taken_tick (answer : Answer) : Call.tick.taken answer = [] := rfl

/-- The result of a call: the new state, the answer, and what left the engine. -/
structure Reply where
  engine : Engine
  answer : Answer
  signals : List Signal
  deriving DecidableEq, Repr, Inhabited

namespace Engine

/-- Make one call. -/
def call (e : Engine) : Call → Reply
  | .tick => ⟨e.tick.engine, .outcome e.tick.outcome, e.tick.signals⟩
  | .deliver v => ⟨(e.deliver v).1, .taken (e.deliver v).2.1, (e.deliver v).2.2⟩
  | .reset => ⟨e.reset.1, .restarted, e.reset.2⟩

/-- The engine after a history. -/
def after (e : Engine) : List Call → Engine
  | [] => e
  | c :: rest => (e.call c).engine.after rest

@[simp] theorem after_cons (e : Engine) (c : Call) (rest : List Call) :
    e.after (c :: rest) = (e.call c).engine.after rest := rfl

/-- The values that were taken in a history, in order. -/
def consumed (e : Engine) : List Call → List Int64
  | [] => []
  | c :: rest => c.taken (e.call c).answer ++ (e.call c).engine.consumed rest

/-- What every call keeps holds after every history. -/
theorem after_induction {P : Engine → Prop} (hcall : ∀ e c, P e → P (e.call c).engine) :
    ∀ (calls : List Call) (e : Engine), P e → P (e.after calls) := by
  intro calls
  induction calls with
  | nil => intro e he; exact he
  | cons c rest ih =>
      intro e he
      exact ih (e.call c).engine (hcall e c he)

end Engine

end TapeConsole
