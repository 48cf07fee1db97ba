import TapeConsole.Proofs.Invariant
set_option autoImplicit false

/-!
# Every value and every event is accounted for

Ticks and values come from two sources, in any order.  This file compares what the
callers were told with what the engine holds: the values taken with the input
instructions carried out, the output with the output instructions, and the count
of instructions with the answers that reported one.

`Engine.Accounts` holds the three balances between two states of an engine.  One
call keeps its balances (`Engine.accounts_call`), and balances add up
(`Engine.Accounts.trans`), so a history keeps them too.

A taken value is followed back to its input instruction by
`Engine.exists_request_of_consumed`: since that instruction there were only ticks
that found the engine waiting.
-/

namespace TapeConsole

/-- The instruction that an answer reports, none or one. -/
def Answer.carried : Answer → List Instruction
  | .outcome (.dispatched i) => [i]
  | _ => []

namespace Engine

/-- The answers to a history, in order. -/
def answers (e : Engine) : List Call → List Answer
  | [] => []
  | c :: rest => (e.call c).answer :: (e.call c).engine.answers rest

/-- The instructions reported in a history, in order. -/
def carried (e : Engine) (calls : List Call) : List Instruction :=
  (e.answers calls).flatMap Answer.carried

/-- The character of the current cell, if the answer reports an output instruction. -/
def shown (e : Engine) : Answer → List Char
  | .outcome (.dispatched .output) => [cellChar e.tape.read]
  | _ => []

/-- The characters of the cells at which output instructions were carried out, in order. -/
def written (e : Engine) : List Call → List Char
  | [] => []
  | c :: rest => e.shown (e.call c).answer ++ (e.call c).engine.written rest

theorem carried_cons (e : Engine) (c : Call) (rest : List Call) :
    e.carried (c :: rest) = (e.call c).answer.carried ++ (e.call c).engine.carried rest := rfl

theorem after_append (first second : List Call) :
    ∀ e : Engine, e.after (first ++ second) = (e.after first).after second := by
  induction first with
  | nil => intro e; rfl
  | cons c rest ih => intro e; exact ih (e.call c).engine

theorem answers_append (first second : List Call) :
    ∀ e : Engine, e.answers (first ++ second) = e.answers first ++ (e.after first).answers second := by
  induction first with
  | nil => intro e; rfl
  | cons c rest ih =>
      intro e
      exact congrArg ((e.call c).answer :: ·) (ih (e.call c).engine)

theorem carried_append (first second : List Call) (e : Engine) :
    e.carried (first ++ second) = e.carried first ++ (e.after first).carried second := by
  unfold carried
  rw [answers_append, List.flatMap_append]

theorem consumed_append (first second : List Call) :
    ∀ e : Engine,
      e.consumed (first ++ second) = e.consumed first ++ (e.after first).consumed second := by
  induction first with
  | nil => intro e; rfl
  | cons c rest ih =>
      intro e
      rw [List.cons_append, consumed, ih, consumed, List.append_assoc]
      rfl

/-! ## The balances -/

/-- What happened between two states of an engine: values that were taken, instructions that were
carried out without a fault, and characters that were written. -/
structure Accounts (e e' : Engine) (taken : List Int64) (carried : List Instruction)
    (written : List Char) : Prop where
  /-- Each input instruction has taken a value, or waits for one at the end. -/
  input : taken.length + e'.blocked.toNat = e.blocked.toNat + carried.count .input
  /-- The characters have been added to the output. -/
  output : e'.output.toList = e.output.toList ++ written
  /-- Each output instruction has written one character. -/
  characters : written.length = carried.count .output
  /-- The instructions have been counted, and one more if it has raised a fault. -/
  count : e'.dispatched + e.fault.isSome.toNat =
    e.dispatched + carried.length + e'.fault.isSome.toNat

namespace Accounts

variable {e e' e'' : Engine}

/-- Nothing that matters here has happened. -/
theorem of_same (hblocked : e'.blocked = e.blocked) (houtput : e'.output = e.output)
    (hcount : e'.dispatched = e.dispatched) (hfault : e'.fault = e.fault) :
    Accounts e e' [] [] [] where
  input := by simp [hblocked]
  output := by simp [houtput]
  characters := rfl
  count := by simp [hcount, hfault]

/-- One instruction was carried out that neither waits nor writes. -/
theorem of_carried {i : Instruction} (hinput : i ≠ .input) (houtput : i ≠ .output)
    (hblocked : e'.blocked = e.blocked) (hsame : e'.output = e.output)
    (hcount : e'.dispatched = e.dispatched + 1) (hfault : e'.fault = e.fault) :
    Accounts e e' [] [i] [] where
  input := by simp [hblocked, hinput]
  output := by simp [hsame]
  characters := by simp [houtput]
  count := by simp [hcount, hfault]

/-- Balances add up. -/
theorem trans {taken taken' : List Int64} {carried carried' : List Instruction}
    {written written' : List Char} (h : Accounts e e' taken carried written)
    (h' : Accounts e' e'' taken' carried' written') :
    Accounts e e'' (taken ++ taken') (carried ++ carried') (written ++ written') where
  input := by
    have hfirst := h.input
    have hsecond := h'.input
    rw [List.length_append, List.count_append]
    omega
  output := by rw [h'.output, h.output, List.append_assoc]
  characters := by rw [List.length_append, List.count_append, h.characters, h'.characters]
  count := by
    have hfirst := h.count
    have hsecond := h'.count
    rw [List.length_append]
    omega

end Accounts

/-! ## One call keeps its balances -/

theorem shown_of_ne_output {e : Engine} {i : Instruction} (hi : i ≠ .output) :
    e.shown (.outcome (.dispatched i)) = [] := by
  cases i with
  | output => exact absurd rfl hi
  | _ => rfl

/-- Carrying out an instruction keeps the balances.  A bracket that faults is counted and not
reported. -/
theorem accounts_dispatch {e : Engine} (hsound : e.memo.Sound e.program) {i : Instruction}
    {position : Nat} (h : e.Dispatches i position) :
    Accounts e e.tick.engine [] (Answer.outcome e.tick.outcome).carried
      (e.shown (.outcome e.tick.outcome)) := by
  rw [h.tick_eq]
  cases performs (e := e.begun) hsound h.get?_eq with
  | stays tape hi _ hperform =>
      rw [hperform, shown_of_ne_output hi.2]
      exact .of_carried hi.1 hi.2 rfl rfl rfl rfl
  | writes hi _ hperform =>
      subst hi
      rw [hperform]
      refine ⟨?_, ?_, rfl, ?_⟩
      · simp [Answer.carried]
      · simp [shown]
      · simp [Answer.carried]
  | waits hi _ hperform =>
      subst hi
      rw [hperform]
      refine ⟨?_, ?_, rfl, ?_⟩
      · simp [Answer.carried, h.ready.blocked_eq]
      · simp [shown]
      · simp [Answer.carried]
  | jumps target hjump _ hperform =>
      obtain ⟨hinput, houtput⟩ := hjump.ne_input_and_ne_output
      rw [hperform, shown_of_ne_output houtput]
      exact .of_carried hinput houtput rfl rfl rfl rfl
  | fails _ _ hperform =>
      rw [hperform]
      refine ⟨?_, ?_, rfl, ?_⟩
      · simp [Answer.carried]
      · simp [shown]
      · simp [Answer.carried, h.ready.fault_eq]

/-- One call keeps its balances.  A reset does not: it forgets the output and the count. -/
theorem accounts_call {e : Engine} (hsound : e.memo.Sound e.program) {c : Call}
    (hreset : c ≠ .reset) :
    Accounts e (e.call c).engine (c.taken (e.call c).answer) (e.call c).answer.carried
      (e.shown (e.call c).answer) := by
  cases c with
  | tick =>
      simp only [call]
      cases e.tick_event with
      | faulted fault _ htick =>
          rw [htick]
          exact .of_same rfl rfl rfl rfl
      | ended _ _ htick =>
          rw [htick]
          exact .of_same rfl rfl rfl rfl
      | waiting _ _ _ htick =>
          rw [htick]
          exact .of_same rfl rfl rfl rfl
      | early _ htick =>
          rw [htick]
          exact .of_same rfl rfl rfl rfl
      | past _ _ htick =>
          rw [htick]
          exact .of_same rfl rfl rfl rfl
      | due i position h => exact accounts_dispatch hsound h
  | deliver v =>
      cases hblocked : e.blocked with
      | true =>
          simp only [call, deliver_of_blocked hblocked]
          refine ⟨?_, ?_, rfl, ?_⟩
          · simp [Call.taken, Answer.carried, hblocked]
          · simp [shown]
          · simp [Answer.carried]
      | false =>
          simp only [call, deliver_of_not_blocked hblocked]
          exact .of_same rfl rfl rfl rfl
  | reset => exact absurd rfl hreset

/-- A history without a reset keeps its balances. -/
theorem accounts_after (calls : List Call) :
    ∀ {e : Engine}, e.memo.Sound e.program → Call.reset ∉ calls →
      Accounts e (e.after calls) (e.consumed calls) (e.carried calls) (e.written calls) := by
  induction calls with
  | nil =>
      intro e _ _
      exact .of_same rfl rfl rfl rfl
  | cons c rest ih =>
      intro e hsound hreset
      rw [List.mem_cons, not_or] at hreset
      exact (accounts_call hsound (Ne.symm hreset.1)).trans
        (ih (memo_sound_call hsound c) hreset.2)

/-! ## From a value back to its input instruction -/

/-- Only an input instruction makes an engine wait, and it does not touch the tape. -/
theorem dispatch_of_blocked {e : Engine} (hsound : e.memo.Sound e.program) {i : Instruction}
    {position : Nat} (h : e.Dispatches i position) (hblocked : e.tick.engine.blocked = true) :
    e.tick.engine.tape = e.tape ∧ e.tick.outcome = .dispatched .input := by
  have hbegun : e.begun.blocked = false := h.ready.blocked_eq
  rw [h.tick_eq] at hblocked ⊢
  cases performs (e := e.begun) hsound h.get?_eq with
  | stays _ _ _ hperform =>
      rw [hperform] at hblocked
      cases hbegun.symm.trans hblocked
  | writes _ _ hperform =>
      rw [hperform] at hblocked
      cases hbegun.symm.trans hblocked
  | waits hi _ hperform =>
      rw [hperform, hi]
      exact ⟨rfl, rfl⟩
  | jumps _ _ _ hperform =>
      rw [hperform] at hblocked
      cases hbegun.symm.trans hblocked
  | fails _ _ hperform =>
      rw [hperform] at hblocked
      cases hbegun.symm.trans hblocked

/-- An engine is blocked after a call if it was blocked and the call was a tick, or if the call
was a tick that carried out an input instruction.  The tape is not changed. -/
theorem call_of_blocked {e : Engine} (hinvariant : e.Invariant)
    (hsound : e.memo.Sound e.program) {c : Call} (hblocked : (e.call c).engine.blocked = true) :
    c = .tick ∧ (e.call c).engine.tape = e.tape ∧
      ((e.blocked = true ∧ (e.call c).answer = .outcome .blocked) ∨
        (e.blocked = false ∧ (e.call c).answer = .outcome (.dispatched .input))) := by
  cases c with
  | tick =>
      refine ⟨rfl, ?_⟩
      simp only [call] at hblocked ⊢
      cases e.tick_event with
      | faulted fault hfault htick =>
          rw [htick] at hblocked
          cases hfault.symm.trans (hinvariant.fault_of_blocked hblocked)
      | ended _ hhalted htick =>
          rw [htick] at hblocked
          cases hhalted.symm.trans (hinvariant.halted_of_blocked hblocked)
      | waiting _ _ hwait htick =>
          rw [htick]
          exact ⟨rfl, .inl ⟨hwait, rfl⟩⟩
      | early hready htick =>
          rw [htick] at hblocked
          cases hready.blocked_eq.symm.trans hblocked
      | past hready _ htick =>
          rw [htick] at hblocked
          cases hready.blocked_eq.symm.trans hblocked
      | due i position h =>
          obtain ⟨htape, houtcome⟩ := dispatch_of_blocked hsound h hblocked
          exact ⟨htape, .inr ⟨h.ready.blocked_eq, congrArg Answer.outcome houtcome⟩⟩
  | deliver v =>
      cases hwait : e.blocked with
      | true =>
          rw [call, deliver_of_blocked hwait] at hblocked
          cases hblocked
      | false =>
          rw [call, deliver_of_not_blocked hwait] at hblocked
          cases hwait.symm.trans hblocked
  | reset => cases hblocked

/-- Ticks that find the engine waiting, as a history. -/
structure Waits (e : Engine) (n : Nat) : Prop where
  /-- Every tick is told that the engine waits. -/
  answers_eq : e.answers (List.replicate n .tick) = List.replicate n (.outcome .blocked)
  /-- The tape is not changed. -/
  tape_eq : (e.after (List.replicate n .tick)).tape = e.tape

theorem Waits.carried_eq {e : Engine} {n : Nat} (h : e.Waits n) :
    e.carried (List.replicate n .tick) = [] := by
  unfold carried
  rw [h.answers_eq, List.flatMap_eq_nil_iff]
  intro a ha
  rw [List.eq_of_mem_replicate ha]
  rfl

/-- A history that ends with the engine waiting is a wait from its start on, or ends with an
input instruction and a wait. -/
theorem waits_or_exists_request (calls : List Call) :
    ∀ {e : Engine}, e.Invariant → e.memo.Sound e.program → (e.after calls).blocked = true →
      (e.blocked = true ∧ ∃ n, calls = List.replicate n .tick ∧ e.Waits n) ∨
      ∃ earlier n, calls = earlier ++ .tick :: List.replicate n .tick ∧
        ((e.after earlier).call .tick).answer = .outcome (.dispatched .input) ∧
        ((e.after earlier).call .tick).engine.tape = (e.after earlier).tape ∧
        ((e.after earlier).call .tick).engine.Waits n := by
  induction calls with
  | nil =>
      intro e _ _ hblocked
      exact .inl ⟨hblocked, 0, rfl, rfl, rfl⟩
  | cons c rest ih =>
      intro e hinvariant hsound hblocked
      rcases ih (hinvariant.call hsound c) (memo_sound_call hsound c) hblocked with
        ⟨hnext, n, rfl, hwaits⟩ | ⟨earlier, n, rfl, hrequest⟩
      · obtain ⟨rfl, htape, ⟨hwait, hanswer⟩ | ⟨-, hanswer⟩⟩ :=
          call_of_blocked hinvariant hsound hnext
        · refine .inl ⟨hwait, n + 1, rfl, ?_, ?_⟩
          · rw [List.replicate_succ, List.replicate_succ, answers, hanswer, hwaits.answers_eq]
          · rw [List.replicate_succ, after_cons, hwaits.tape_eq, htape]
        · exact .inr ⟨[], n, rfl, hanswer, htape, hwaits⟩
      · exact .inr ⟨c :: earlier, n, rfl, hrequest⟩

/-- A call takes no value, or it delivers one to an engine that waits. -/
theorem taken_cases (e : Engine) (c : Call) :
    c.taken (e.call c).answer = [] ∨
      ∃ v, c = .deliver v ∧ e.blocked = true ∧ c.taken (e.call c).answer = [v] := by
  cases c with
  | tick => exact .inl rfl
  | deliver v =>
      cases hblocked : e.blocked with
      | true =>
          refine .inr ⟨v, rfl, rfl, ?_⟩
          simp only [call, deliver_of_blocked hblocked, Call.taken]
      | false => exact .inl (by simp only [call, deliver_of_not_blocked hblocked, Call.taken])
  | reset => exact .inl rfl

/-- A value that was taken comes from a delivery to an engine that waited. -/
theorem exists_deliver_of_consumed (calls : List Call) :
    ∀ {e : Engine} {i : Nat} {v : Int64}, (e.consumed calls)[i]? = some v →
      ∃ before later, calls = before ++ .deliver v :: later ∧ (e.consumed before).length = i ∧
        (e.after before).blocked = true := by
  induction calls with
  | nil => intro e i v h; cases h
  | cons c rest ih =>
      intro e i v h
      rw [consumed] at h
      rcases e.taken_cases c with hnone | ⟨w, rfl, hblocked, hone⟩
      · rw [hnone, List.nil_append] at h
        obtain ⟨before, later, rfl, hlength, hwait⟩ := ih h
        refine ⟨c :: before, later, rfl, ?_, hwait⟩
        rw [consumed, hnone, List.nil_append, hlength]
      · rw [hone, List.singleton_append] at h
        cases i with
        | zero =>
            obtain rfl := Option.some.inj h
            exact ⟨[], rest, rfl, rfl, hblocked⟩
        | succ i =>
            obtain ⟨before, later, rfl, hlength, hwait⟩ := ih h
            refine ⟨.deliver w :: before, later, rfl, ?_, hwait⟩
            rw [consumed, hone, List.singleton_append, List.length_cons, hlength]

/-- The value that was taken as number `i` went into the cell at which input instruction number
`i` was carried out, and from that instruction to the delivery every tick found the engine
waiting. -/
theorem exists_request_of_consumed {e : Engine} (hinvariant : e.Invariant)
    (hsound : e.memo.Sound e.program) (hstart : e.blocked = false) {calls : List Call}
    (hreset : Call.reset ∉ calls) {i : Nat} {v : Int64}
    (h : (e.consumed calls)[i]? = some v) :
    ∃ earlier n later,
      calls = earlier ++ .tick :: (List.replicate n .tick ++ .deliver v :: later) ∧
      (e.carried earlier).count .input = i ∧
      ((e.after earlier).call .tick).answer = .outcome (.dispatched .input) ∧
      ((e.after earlier).call .tick).engine.answers (List.replicate n .tick) =
        List.replicate n (.outcome .blocked) ∧
      (e.after (earlier ++ .tick :: (List.replicate n .tick ++ [.deliver v]))).tape =
        (e.after earlier).tape.write v ∧
      (e.after (earlier ++ .tick :: (List.replicate n .tick ++ [.deliver v]))).tape.cells =
        (e.after earlier).tape.cells.set (e.after earlier).tape.pointer v := by
  obtain ⟨before, later, rfl, hlength, hblocked⟩ := exists_deliver_of_consumed calls h
  rcases waits_or_exists_request before hinvariant hsound hblocked with
    ⟨hwait, -⟩ | ⟨earlier, n, rfl, hanswer, htape, hwaits⟩
  · cases hstart.symm.trans hwait
  · have hwritten : (e.after (earlier ++ .tick :: (List.replicate n .tick ++ [.deliver v]))).tape =
        (e.after earlier).tape.write v := by
      have hregroup : earlier ++ .tick :: (List.replicate n .tick ++ [Call.deliver v]) =
          (earlier ++ .tick :: List.replicate n .tick) ++ [.deliver v] := by simp
      have hsame : (e.after (earlier ++ .tick :: List.replicate n .tick)).tape =
          (e.after earlier).tape := by
        rw [after_append, after_cons, hwaits.tape_eq, htape]
      rw [hregroup, after_append _ [Call.deliver v], after_cons, call, deliver_of_blocked hblocked,
        ← hsame]
      rfl
    refine ⟨earlier, n, later, by simp, ?_, hanswer, hwaits.answers_eq, hwritten, ?_⟩
    · -- One input instruction more than values taken, and it is the one that waits.
      have hbefore : Call.reset ∉ earlier ++ .tick :: List.replicate n .tick := fun hmem =>
        hreset (List.mem_append_left _ hmem)
      have hinput := (accounts_after _ hsound hbefore).input
      have hcarried : e.carried (earlier ++ .tick :: List.replicate n .tick) =
          e.carried earlier ++ [.input] := by
        rw [carried_append, carried_cons, hanswer, hwaits.carried_eq]
        rfl
      rw [hblocked, hstart, hlength, hcarried, List.count_append] at hinput
      simp only [Bool.toNat_true, Bool.toNat_false, List.count_singleton_self] at hinput
      omega
    · rw [hwritten, Tape.cells_write]

end Engine

/-! ## A source that offers its values again and again -/

/-- Whose turn it is. -/
inductive Turn where
  /-- The source of ticks makes a tick. -/
  | tick
  /-- The source of values offers the first value that has not been taken yet. -/
  | offer
  deriving DecidableEq, Repr, Inhabited

namespace Engine

/-- The calls made by a source of ticks and a source of values in the order of their turns.  A
value is offered at every turn of its source until it is taken, and after the last one nothing is
offered. -/
def interleave (e : Engine) : List Int64 → List Turn → List Call
  | _, [] => []
  | values, .tick :: turns => .tick :: (e.call .tick).engine.interleave values turns
  | [], .offer :: turns => e.interleave [] turns
  | v :: rest, .offer :: turns =>
      .deliver v :: (e.call (.deliver v)).engine.interleave
        (if (e.deliver v).2.1 then rest else v :: rest) turns

theorem reset_not_mem_interleave (turns : List Turn) :
    ∀ (e : Engine) (values : List Int64), Call.reset ∉ e.interleave values turns := by
  induction turns with
  | nil =>
      intro e values h
      cases values <;> cases h
  | cons turn turns ih =>
      intro e values h
      cases turn with
      | tick =>
          cases values with
          | nil => exact ih _ _ ((List.mem_cons.mp h).resolve_left (by simp))
          | cons v rest => exact ih _ _ ((List.mem_cons.mp h).resolve_left (by simp))
      | offer =>
          cases values with
          | nil => exact ih _ _ h
          | cons v rest => exact ih _ _ ((List.mem_cons.mp h).resolve_left (by simp))

/-- What such a source gets rid of is a first part of its list. -/
theorem consumed_interleave_prefix (turns : List Turn) :
    ∀ (e : Engine) (values : List Int64), e.consumed (e.interleave values turns) <+: values := by
  induction turns with
  | nil =>
      intro e values
      cases values <;> exact List.nil_prefix
  | cons turn turns ih =>
      intro e values
      cases turn with
      | tick =>
          cases values with
          | nil => exact ih _ _
          | cons v rest => exact ih _ _
      | offer =>
          cases values with
          | nil => exact ih _ _
          | cons v rest =>
              rw [interleave, consumed]
              cases hblocked : e.blocked with
              | true =>
                  have hrest := ih (e.call (.deliver v)).engine rest
                  simp only [call, deliver_of_blocked hblocked, Call.taken, if_true] at hrest ⊢
                  exact List.cons_prefix_cons.mpr ⟨rfl, hrest⟩
              | false =>
                  have hsame := ih (e.call (.deliver v)).engine (v :: rest)
                  simp only [call, deliver_of_not_blocked hblocked, Call.taken,
                    Bool.false_eq_true, if_false] at hsame ⊢
                  exact hsame

end Engine

/-- No value is lost, doubled or put in another order, and the counters account for every event.
From a new engine, or one that has been reset, and for every history without a further reset:
each input instruction has taken a value or waits for one; value number `i` went into the cell at
which input instruction number `i` was carried out, and nothing was carried out in between; the
output has the character of the cell for each output instruction, in order; and the instructions
counted are those reported, and one more after a fault.  Hence a source that offers its values
again and again gets rid of a first part of them, one for each input instruction answered. -/
theorem values_and_events_accounted {p : Program} {e : Engine}
    (hstart : e = Engine.load p ∨ ∃ history, e = ((Engine.load p).after history).reset.1) :
    (∀ calls : List Call, Call.reset ∉ calls →
      (e.consumed calls).length + (e.after calls).blocked.toNat =
        (e.carried calls).count .input ∧
      (∀ i v, (e.consumed calls)[i]? = some v → ∃ earlier n later,
        calls = earlier ++ .tick :: (List.replicate n .tick ++ .deliver v :: later) ∧
        (e.carried earlier).count .input = i ∧
        ((e.after earlier).call .tick).answer = .outcome (.dispatched .input) ∧
        ((e.after earlier).call .tick).engine.answers (List.replicate n .tick) =
          List.replicate n (.outcome .blocked) ∧
        (e.after (earlier ++ .tick :: (List.replicate n .tick ++ [.deliver v]))).tape =
          (e.after earlier).tape.write v ∧
        (e.after (earlier ++ .tick :: (List.replicate n .tick ++ [.deliver v]))).tape.cells =
          (e.after earlier).tape.cells.set (e.after earlier).tape.pointer v) ∧
      (e.after calls).output.toList = e.written calls ∧
      (e.written calls).length = (e.carried calls).count .output ∧
      (e.after calls).dispatched =
        (e.carried calls).length + (e.after calls).fault.isSome.toNat) ∧
    ∀ (values : List Int64) (turns : List Turn),
      let calls := e.interleave values turns
      e.consumed calls =
        values.take ((e.carried calls).count .input - (e.after calls).blocked.toNat) := by
  have hfresh : ∃ memo : JumpMemo, memo.Sound p ∧ e = { program := p, memo := memo } := by
    rcases hstart with rfl | ⟨history, rfl⟩
    · exact ⟨_, JumpMemo.sound_blank p, rfl⟩
    · refine ⟨_, Engine.memo_sound_after p history, ?_⟩
      rw [Engine.reset, Engine.program_after]
      rfl
  obtain ⟨memo, hsound, rfl⟩ := hfresh
  have hinvariant := Engine.Invariant.of_start p memo
  constructor
  · intro calls hreset
    have haccounts := Engine.accounts_after calls (e := { program := p, memo := memo })
      hsound hreset
    refine ⟨?_, ?_, haccounts.output, haccounts.characters, ?_⟩
    · have hinput := haccounts.input
      rwa [Bool.toNat_false, Nat.zero_add] at hinput
    · intro i v h
      exact Engine.exists_request_of_consumed hinvariant hsound rfl hreset h
    · have hcount := haccounts.count
      rwa [Option.isSome_none, Bool.toNat_false, Nat.add_zero, Nat.zero_add] at hcount
  · intro values turns calls
    have hreset : Call.reset ∉ calls := Engine.reset_not_mem_interleave turns _ values
    have hinput := (Engine.accounts_after calls (e := { program := p, memo := memo })
      hsound hreset).input
    rw [Bool.toNat_false, Nat.zero_add] at hinput
    rw [← hinput, Nat.add_sub_cancel]
    exact List.prefix_iff_eq_take.mp (Engine.consumed_interleave_prefix turns _ values)

/-- The value 3 is offered too early and again while the engine waits.  It goes into the cell of
the only input instruction; the value 4 is never taken. -/
theorem values_and_events_accounted_of_early_offer :
    let e := Engine.load (.ofList [.input])
    let turns : List Turn :=
      .offer :: (List.replicate 60 .tick ++ [.tick, .offer, .offer])
    e.consumed (e.interleave [3, 4] turns) = [3] ∧
      ∃ earlier n later, e.interleave [3, 4] turns =
        earlier ++ .tick :: (List.replicate n .tick ++ .deliver 3 :: later) ∧
        (e.after (earlier ++ .tick :: (List.replicate n .tick ++ [.deliver 3]))).tape =
          (e.after earlier).tape.write 3 ∧
        (e.after (earlier ++ .tick :: (List.replicate n .tick ++ [.deliver 3]))).tape.cells =
          (e.after earlier).tape.cells.set (e.after earlier).tape.pointer 3 := by
  intro e turns
  obtain ⟨haccounts, hoffers⟩ :=
    values_and_events_accounted (p := .ofList [.input]) (e := e) (.inl rfl)
  have hcount : (e.carried (e.interleave [3, 4] turns)).count .input -
      (e.after (e.interleave [3, 4] turns)).blocked.toNat = 1 := by decide +kernel
  have hconsumed : e.consumed (e.interleave [3, 4] turns) = [3] := by
    rw [hoffers [3, 4] turns, hcount]
    rfl
  obtain ⟨earlier, n, later, hcalls, -, -, -, hcell⟩ :=
    (haccounts (e.interleave [3, 4] turns) (by decide +kernel)).2.1 0 3 (by rw [hconsumed]; rfl)
  exact ⟨hconsumed, earlier, n, later, hcalls, hcell⟩

end TapeConsole
