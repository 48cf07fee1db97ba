import Mathlib.Logic.Function.Iterate
import TapeConsole.Proofs.Memo
set_option autoImplicit false

/-!
# Schedules

Ticks and deliveries reach an engine in any order and any number.  Most of them
leave no trace: idle ticks, ticks while a value is waited for, values that nobody
waits for.  What is left is one canonical run, `Engine.proceed` again and again,
which takes its values from a list and knows no clock.

Every history is at some point of that run (`Engine.exists_iterate_proceed`), and
which point it is can be read off the engine: the instructions carried out, the
values taken, and whether the program has ended.  The last is needed because the
step past the last instruction counts as no instruction.
-/

namespace TapeConsole

namespace Engine

/-! ## Where an instruction leads -/

theorem dispatched_perform (e : Engine) (i : Instruction) (position : Nat) :
    (e.perform i position).engine.dispatched = e.dispatched := by
  obtain ⟨direction, -, h⟩ | ⟨_, _, _, _, h⟩ := e.perform_cases i position
  · rw [h, jump]
    split <;> rfl
  · rw [h]

/-- An instruction leaves the pointer inside the program, where it was or at a partner. -/
theorem ip_perform {e : Engine} (hsound : e.memo.Sound e.program) {i : Instruction}
    {position : Nat} (hget : e.program.get? position = some i) (hip : e.ip = some position) :
    ∃ target, (e.perform i position).engine.ip = some target ∧ target < e.program.length := by
  have hinside : position < e.program.length := Program.lt_length_of_get? hget
  obtain ⟨direction, rfl, h⟩ | ⟨_, _, _, _, h⟩ := e.perform_cases i position
  · rw [h, jump_eq hsound hget]
    cases hfound : e.program.partner position direction with
    | ok target =>
        exact ⟨target, rfl, ((Program.partner_eq_ok_iff hget).mp hfound).symm.lt_length⟩
    | error fault => exact ⟨position, hip, hinside⟩
  · rw [h]
    exact ⟨position, hip, hinside⟩

theorem halted_of_ip {e : Engine} {i : Nat} (h : e.ip = some i) :
    e.halted = decide (e.program.length ≤ i) := by
  unfold halted
  rw [h]

/-- A dispatch inside the program counts one instruction and does not end the program. -/
theorem dispatch_inside {e : Engine} (hsound : e.memo.Sound e.program) {i : Instruction}
    (hget : e.program.get? e.nextPosition = some i) :
    e.dispatch.engine.dispatched = e.dispatched + 1 ∧ e.dispatch.engine.halted = false := by
  obtain ⟨target, hip, hlt⟩ := ip_perform (e := e.started) hsound hget rfl
  have hprogram := program_perform e.started i e.nextPosition
  rw [dispatch_of_some hget]
  refine ⟨dispatched_perform e.started i e.nextPosition, ?_⟩
  rw [halted_of_ip (i := target) hip, hprogram]
  exact decide_eq_false (Nat.not_le.mpr hlt)

/-- A dispatch past the end counts nothing and ends the program. -/
theorem dispatch_past_end {e : Engine} (hget : e.program.get? e.nextPosition = none) :
    e.dispatch.engine.dispatched = e.dispatched ∧ e.dispatch.engine.halted = true := by
  rw [dispatch_of_none hget]
  refine ⟨rfl, ?_⟩
  rw [halted_of_ip (i := e.nextPosition) rfl, decide_eq_true_iff]
  rw [Program.get?_eq_getElem?, List.getElem?_eq_none_iff, Program.length_toList] at hget
  exact hget

/-! ## The canonical run -/

/-- The next thing that leaves a trace: the value that is waited for, or an instruction. -/
def proceed : Engine × List Int64 → Engine × List Int64
  | (e, values) =>
      if e.blocked then
        match values with
        | [] => (e, [])
        | v :: rest => ((e.deliver v).1, rest)
      else (e.dispatch.engine, values)

/-- How far an engine has come, apart from the values taken. -/
def progress (e : Engine) : Nat := e.dispatched + e.halted.toNat

@[simp] theorem progress_still (e : Engine) : e.still.progress = e.progress := rfl

/-- A call leaves no trace, or it is the next step of the canonical run. -/
theorem stutter_or_proceed {e : Engine} (hsound : e.memo.Sound e.program) {c : Call}
    (hreset : c ≠ .reset) (values : List Int64) :
    ((e.call c).engine.still = e.still ∧ c.taken (e.call c).answer = []) ∨
    (proceed (e.still, c.taken (e.call c).answer ++ values) = ((e.call c).engine.still, values) ∧
      e.progress + 1 =
        (e.call c).engine.progress + (c.taken (e.call c).answer).length) := by
  cases c with
  | tick =>
      obtain ⟨_, _, h⟩ | ⟨_, _, h⟩ | ⟨_, _, _, h⟩ | ⟨_, _, h⟩ | ⟨hready, _, h⟩ := e.tick_cases
      · exact .inl ⟨by rw [call, h], rfl⟩
      · exact .inl ⟨by rw [call, h], rfl⟩
      · exact .inl ⟨by rw [call, h, still_counted], rfl⟩
      · exact .inl ⟨by rw [call, h, still_counted], rfl⟩
      · right
        simp only [call, h, Call.taken, List.nil_append]
        constructor
        · have hstill : e.still.dispatch.engine.still = e.still.dispatch.engine := by
            rw [dispatch_still]
            rfl
          simp [proceed, hready.blocked_eq, hstill]
        · have hbefore : e.progress = e.dispatched := by
            simp [progress, hready.halted_eq]
          rw [hbefore]
          cases hget : e.program.get? e.nextPosition with
          | none =>
              obtain ⟨hcount, hend⟩ := dispatch_past_end (e := e.still) hget
              simp [progress, hcount, hend]
          | some i =>
              obtain ⟨hcount, hend⟩ := dispatch_inside (e := e.still) hsound hget
              simp [progress, hcount, hend]
  | deliver v =>
      cases hblocked : e.blocked with
      | true =>
          right
          simp only [call, deliver_of_blocked hblocked, Call.taken]
          constructor
          · simp only [proceed, blocked_still, hblocked, if_true, List.cons_append,
              deliver_of_blocked (e := e.still) hblocked]
            rfl
          · rfl
      | false =>
          have hcall : e.call (.deliver v) = ⟨e, .taken false, []⟩ := by
            rw [call, deliver_of_not_blocked hblocked]
          rw [hcall]
          exact .inl ⟨rfl, rfl⟩
  | reset => exact absurd rfl hreset

/-- Every history without a reset is at some point of the canonical run that takes the values
the history took.  The point is known from the engine and from the values. -/
theorem exists_iterate_proceed (calls : List Call) :
    ∀ (e : Engine) (values : List Int64), e.memo.Sound e.program → Call.reset ∉ calls →
      ∃ n, proceed^[n] (e.still, e.consumed calls ++ values) =
          ((e.after calls).still, values) ∧
        e.progress + n = (e.after calls).progress + (e.consumed calls).length := by
  induction calls with
  | nil =>
      intro e values _ _
      exact ⟨0, rfl, rfl⟩
  | cons c rest ih =>
      intro e values hsound hreset
      have hc : c ≠ .reset := fun h => hreset (h ▸ List.mem_cons_self)
      have hrest : Call.reset ∉ rest := fun h => hreset (List.mem_cons_of_mem c h)
      obtain ⟨n, hrun, hcount⟩ := ih (e.call c).engine values (memo_sound_call hsound c) hrest
      rw [after_cons, consumed, List.append_assoc, List.length_append]
      obtain ⟨hstill, htaken⟩ | ⟨hstep, hprogress⟩ :=
        stutter_or_proceed hsound hc ((e.call c).engine.consumed rest ++ values)
      · have hsame : (e.call c).engine.progress = e.progress := by
          rw [← progress_still, hstill, progress_still]
        rw [htaken, List.nil_append, ← hstill]
        exact ⟨n, hrun, by rw [← hsame]; simpa using hcount⟩
      · refine ⟨n + 1, ?_, by omega⟩
        rw [Function.iterate_succ_apply, hstep, hrun]

/-- A tick that finds nothing to do and a value that nobody waits for change at most the count
of ticks. -/
theorem still_call_of_no_event {e : Engine} {c : Call}
    (hanswer : (e.call c).answer = .outcome .idle ∨ (e.call c).answer = .outcome .blocked ∨
      (e.call c).answer = .taken false) :
    (e.call c).engine.still = e.still ∧ (e.call c).signals = [] := by
  cases c with
  | tick =>
      obtain ⟨_, _, h⟩ | ⟨_, _, h⟩ | ⟨_, _, _, h⟩ | ⟨_, _, h⟩ | ⟨_, _, h⟩ := e.tick_cases
      · exact ⟨by rw [call, h], by rw [call, h]⟩
      · exact ⟨by rw [call, h], by rw [call, h]⟩
      · exact ⟨by rw [call, h, still_counted], by rw [call, h]⟩
      · exact ⟨by rw [call, h, still_counted], by rw [call, h]⟩
      · exfalso
        simp only [call, h, Answer.outcome.injEq] at hanswer
        obtain hend | ⟨_, hend⟩ | ⟨_, hend⟩ := outcome_dispatch e.still <;>
          simp [hend] at hanswer
  | deliver v =>
      cases hblocked : e.blocked with
      | true => simp [call, deliver_of_blocked hblocked] at hanswer
      | false =>
          rw [call, deliver_of_not_blocked hblocked]
          exact ⟨rfl, rfl⟩
  | reset => simp [call] at hanswer

end Engine

/-- The run of a program depends only on the values it has taken, not on the schedule.  Two
histories without a reset that have carried out as many instructions, have taken the same values
and agree on whether the program has ended lead to the same engine, apart from the count of ticks
since the last instruction.  Ticks that find nothing to do and values that nobody waits for leave
no other trace. -/
theorem still_after_eq_of_consumed_eq (p : Program) :
    (∀ first second : List Call, Call.reset ∉ first → Call.reset ∉ second →
      ((Engine.load p).after first).dispatched = ((Engine.load p).after second).dispatched →
      (Engine.load p).consumed first = (Engine.load p).consumed second →
      ((Engine.load p).after first).halted = ((Engine.load p).after second).halted →
      ((Engine.load p).after first).still = ((Engine.load p).after second).still) ∧
    ∀ (calls : List Call) (c : Call),
      let e := (Engine.load p).after calls
      ((e.call c).answer = .outcome .idle ∨ (e.call c).answer = .outcome .blocked ∨
        (e.call c).answer = .taken false) →
      (e.call c).engine.still = e.still ∧ (e.call c).signals = [] := by
  constructor
  · intro first second hfirst hsecond hdispatched hconsumed hhalted
    have hsound : (Engine.load p).memo.Sound (Engine.load p).program := JumpMemo.sound_blank p
    obtain ⟨m, hm, hmcount⟩ := Engine.exists_iterate_proceed first (Engine.load p) [] hsound hfirst
    obtain ⟨n, hn, hncount⟩ :=
      Engine.exists_iterate_proceed second (Engine.load p) [] hsound hsecond
    have hmn : m = n := by
      simp only [Engine.progress, hdispatched, hhalted, hconsumed] at hmcount hncount
      omega
    rw [hconsumed, hmn, hn] at hm
    exact (congrArg Prod.fst hm).symm
  · intro calls c e hanswer
    exact Engine.still_call_of_no_event hanswer

/-- A value that comes too early is not taken, and ticks while one is waited for do not count. -/
theorem still_after_eq_of_early_value :
    let p := Program.ofList [.input]
    let prompt : List Call := List.replicate 60 .tick ++ [.deliver 7]
    let slow : List Call :=
      List.replicate 30 .tick ++ .deliver 3 :: (List.replicate 35 .tick ++ [.deliver 7])
    ((Engine.load p).after prompt).still = ((Engine.load p).after slow).still ∧
      ((Engine.load p).call (.deliver 3)).engine.still = (Engine.load p).still := by
  intro p prompt slow
  obtain ⟨hsame, htrace⟩ := still_after_eq_of_consumed_eq p
  refine ⟨hsame prompt slow ?_ ?_ ?_ ?_ ?_, (htrace [] (.deliver 3) ?_).1⟩
  all_goals decide +kernel

end TapeConsole
