import TapeConsole.Proofs.Memo
set_option autoImplicit false

/-!
# Starting again

A reset keeps the memo of partners, so an engine that has been reset is not the
same as a new one.  Nobody can tell the two apart.  An engine with a sound memo
does what the engine that knows no partner at all does (`Engine.call_forget`),
up to the mark in the record of a jump; and without their memos the engine after
a reset and a new engine are the same.
-/

namespace TapeConsole

/-! ## Forgetting the memo -/

/-- The record without the mark that tells a remembered partner from one searched for. -/
def Record.unmarked : Record → Record
  | .jump source target _ => .jump source target false
  | r => r

/-- The signal without the mark that tells a remembered partner from one searched for. -/
def Signal.unmarked : Signal → Signal
  | .note record => .note record.unmarked
  | .emit c => .emit c

@[simp] theorem Signal.unmarked_unmarked (s : Signal) : s.unmarked.unmarked = s.unmarked := by
  cases s with
  | note record => cases record <;> rfl
  | emit c => rfl

namespace Engine

/-- The same engine with no partner known. -/
def forget (e : Engine) : Engine := { e with memo := {} }

@[simp] theorem program_forget (e : Engine) : e.forget.program = e.program := rfl
@[simp] theorem view_forget (e : Engine) : e.forget.view = e.view := rfl
@[simp] theorem nextPosition_forget (e : Engine) : e.forget.nextPosition = e.nextPosition := rfl

/-- A step as it looks without the memo. -/
def Step.forget (s : Step) : Step := ⟨s.engine.forget, s.outcome, s.signals.map Signal.unmarked⟩

end Engine

/-- A reply as it looks without the memo. -/
def Reply.forget (r : Reply) : Reply :=
  ⟨r.engine.forget, r.answer, r.signals.map Signal.unmarked⟩

/-- An empty memo stays empty: there is no place in it. -/
theorem JumpMemo.resolve_empty (p : Program) (source : Nat) (direction : Direction) :
    ({} : JumpMemo).resolve p source direction =
      match p.partner source direction with
      | .ok target => .ok ⟨target, {}, false⟩
      | .error fault => .error fault := by
  have hnone : ({} : JumpMemo).get? source = none := by simp [JumpMemo.get?]
  have hlink : ∀ target, ({} : JumpMemo).link source target = {} := by
    intro target
    simp [JumpMemo.link]
  unfold JumpMemo.resolve
  rw [hnone]
  cases p.partner source direction with
  | ok target => simp only [hlink]
  | error fault => rfl

namespace Engine

/-! ## An engine does what it does without its memo -/

theorem forget_jump {e : Engine} (hsound : e.memo.Sound e.program) {source : Nat}
    {direction : Direction} (hget : e.program.get? source = some direction.bracket)
    (i : Instruction) : (e.jump i source direction).forget = e.forget.jump i source direction := by
  have hforget : e.forget.jump i source direction =
      match e.program.partner source direction with
      | .ok target =>
          ⟨{ e.forget with ip := some target }, .dispatched i,
            [.note (.jump source target false)]⟩
      | .error fault =>
          ⟨{ e.forget with fault := some fault }, .faulted fault, [.note (.fault fault)]⟩ := by
    unfold jump
    rw [show e.forget.memo = {} from rfl, JumpMemo.resolve_empty, program_forget]
    cases e.program.partner source direction <;> rfl
  rw [jump_eq hsound hget, hforget]
  cases e.program.partner source direction <;> rfl

theorem forget_perform {e : Engine} (hsound : e.memo.Sound e.program) {i : Instruction}
    {position : Nat} (hget : e.program.get? position = some i) :
    (e.perform i position).forget = e.forget.perform i position := by
  have hbracket : ∀ direction : Direction, i = direction.bracket →
      (e.perform i position).forget = e.forget.perform i position := by
    rintro direction rfl
    cases hjumps : direction.jumps e.tape.read with
    | true =>
        rw [perform_of_jumps hjumps, perform_of_jumps (e := e.forget) hjumps,
          forget_jump hsound hget]
    | false =>
        rw [perform_of_stays hjumps, perform_of_stays (e := e.forget) hjumps]
        rfl
  cases i with
  | loopStart => exact hbracket .forward rfl
  | loopEnd => exact hbracket .backward rfl
  | _ => rfl

theorem forget_dispatch {e : Engine} (hsound : e.memo.Sound e.program) :
    e.dispatch.forget = e.forget.dispatch := by
  cases hget : e.program.get? e.nextPosition with
  | none =>
      have hforget : e.forget.program.get? e.forget.nextPosition = none := hget
      rw [dispatch_of_none hget, dispatch_of_none hforget]
      rfl
  | some i =>
      have hforget : e.forget.program.get? e.forget.nextPosition = some i := hget
      have hstarted : e.forget.started = e.started.forget := rfl
      rw [dispatch_of_some hget, dispatch_of_some hforget, hstarted, nextPosition_forget,
        ← forget_perform (e := e.started) hsound hget]
      rfl

theorem forget_tick {e : Engine} (hsound : e.memo.Sound e.program) :
    e.tick.forget = e.forget.tick := by
  obtain ⟨_, hfault, h⟩ | ⟨hfault, hhalted, h⟩ | ⟨hfault, hhalted, hblocked, h⟩ |
    ⟨hready, hdue, h⟩ | ⟨hready, hdue, h⟩ := e.tick_cases
  · rw [h, tick_of_fault (e := e.forget) hfault]
    rfl
  · rw [h, tick_of_halted (e := e.forget) hfault hhalted]
    rfl
  · rw [h, tick_of_blocked (e := e.forget) hfault hhalted hblocked]
    rfl
  · have hforget : e.forget.Ready := ⟨hready.fault_eq, hready.halted_eq, hready.blocked_eq⟩
    rw [h, tick_of_early hforget hdue]
    rfl
  · have hforget : e.forget.Ready := ⟨hready.fault_eq, hready.halted_eq, hready.blocked_eq⟩
    rw [h, tick_of_due hforget hdue, forget_dispatch (e := e.still) hsound]
    rfl

/-- An engine with a sound memo does what the same engine does that knows no partner. -/
theorem call_forget {e : Engine} (hsound : e.memo.Sound e.program) (c : Call) :
    e.forget.call c = (e.call c).forget := by
  cases c with
  | tick =>
      simp only [call, ← forget_tick hsound]
      rfl
  | deliver v =>
      cases hblocked : e.blocked with
      | true =>
          simp only [call, deliver_of_blocked hblocked, deliver_of_blocked (e := e.forget) hblocked]
          rfl
      | false =>
          simp only [call, deliver_of_not_blocked hblocked,
            deliver_of_not_blocked (e := e.forget) hblocked]
          rfl
  | reset => rfl

end Engine

/-! ## What can be observed -/

/-- What can be observed of one call: the answer, the engine after it, and what left the engine,
characters for the sink and records, up to the mark of remembered partners. -/
structure Observation where
  answer : Answer
  view : View
  signals : List Signal
  deriving DecidableEq, Repr, Inhabited

namespace Engine

/-- What can be observed of a history. -/
def observe (e : Engine) : List Call → List Observation
  | [] => []
  | c :: rest =>
      ⟨(e.call c).answer, (e.call c).engine.view, (e.call c).signals.map Signal.unmarked⟩ ::
        (e.call c).engine.observe rest

/-- Nothing that can be observed depends on what the memo knows. -/
theorem observe_forget (calls : List Call) :
    ∀ e : Engine, e.memo.Sound e.program → e.forget.observe calls = e.observe calls := by
  induction calls with
  | nil => intro e _; rfl
  | cons c rest ih =>
      intro e hsound
      have hrest := ih (e.call c).engine (memo_sound_call hsound c)
      have hidem : Signal.unmarked ∘ Signal.unmarked = Signal.unmarked := by
        funext s
        exact Signal.unmarked_unmarked s
      rw [observe, observe, call_forget hsound]
      simp only [Reply.forget, view_forget, hrest, List.map_map, hidem]

end Engine

/-- A reset gives a fresh engine.  Whatever happened before, every later history gives the same
answers, the same views and the same signals as on a new engine of the program. -/
theorem observe_reset_eq_observe_load (p : Program) (history later : List Call) :
    let e := ((Engine.load p).after history).reset.1
    e.view = (Engine.load p).view ∧ e.observe later = (Engine.load p).observe later := by
  intro e
  have hprogram : e.program = p := Engine.program_after (Engine.load p) history
  have hforget : e.forget = (Engine.load p).forget := by
    have hreset : e.forget = (Engine.load e.program).forget := rfl
    rw [hreset, hprogram]
  have hsound : e.memo.Sound e.program := by
    rw [hprogram]
    exact Engine.memo_sound_after p history
  have hfresh : (Engine.load p).memo.Sound (Engine.load p).program := JumpMemo.sound_blank p
  constructor
  · rw [← Engine.view_forget e, hforget, Engine.view_forget]
  · rw [← Engine.observe_forget later e hsound, hforget,
      Engine.observe_forget later (Engine.load p) hfresh]

end TapeConsole
