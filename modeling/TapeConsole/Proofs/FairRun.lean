import Mathlib.Data.Stream.Init
import TapeConsole.Proofs.Dispatch
import TapeConsole.Proofs.Transcript
set_option autoImplicit false

/-!
# Runs that are kept going

A schedule is an endless sequence of calls.  It is fair to an engine if ticks never
stop and a value comes whenever one is waited for (`Engine.Fair`).  What an engine
does under such a schedule is decided by its program, tape and place in the program,
and by the values that come: neither the clock nor the memo makes a difference but in
how many ticks it takes.

`Engine.bare` is the part that decides, and `Engine.trail` the instructions carried
out.  Most calls leave the bare engine as it is (`Engine.call_event`); under a fair
schedule there are finitely many of them before the next one that does not
(`Engine.Fair.exists_value`, `Engine.Fair.exists_act`).  The main lemma,

    Engine.Fair.exists_alike

says that whatever a finite history does is done, instruction by instruction, under
every fair schedule that brings the same values.
-/

namespace TapeConsole

/-! ## The instructions of a history -/

/-- The instruction that a signal reports as carried out, with its position; none or one. -/
def Signal.dispatched : Signal → List (Nat × Instruction)
  | .note (.dispatch _ position i) => [(position, i)]
  | _ => []

namespace Engine

/-- The instructions carried out in a history, with their positions, as the records say. -/
def trail (e : Engine) (calls : List Call) : List (Nat × Instruction) :=
  (e.signals calls).flatMap Signal.dispatched

theorem trail_cons (e : Engine) (c : Call) (rest : List Call) :
    e.trail (c :: rest) =
      (e.call c).signals.flatMap Signal.dispatched ++ (e.call c).engine.trail rest := by
  unfold trail
  rw [signals, List.flatMap_append]

theorem trail_append (first second : List Call) (e : Engine) :
    e.trail (first ++ second) = e.trail first ++ (e.after first).trail second := by
  unfold trail
  rw [signals_append, List.flatMap_append]

/-- A dispatch reports the next instruction, if there is one, and no other. -/
theorem dispatched_dispatch (e : Engine) :
    e.dispatch.signals.flatMap Signal.dispatched =
      ((e.program.get? e.nextPosition).map (e.nextPosition, ·)).toList := by
  cases hget : e.program.get? e.nextPosition with
  | none =>
      rw [dispatch_of_none hget]
      rfl
  | some i =>
      have hrest : (e.started.perform i e.nextPosition).signals.flatMap Signal.dispatched = [] := by
        refine List.flatMap_eq_nil_iff.mpr fun signal hmem => ?_
        match signal, hmem with
        | .note (.dispatch _ _ _), hmem =>
            exact (note_dispatch_not_mem_perform _ _ _ _ _ _ hmem).elim
        | .note (.jump ..), _ => rfl
        | .note (.delivered _), _ => rfl
        | .note .reset, _ => rfl
        | .note (.halted ..), _ => rfl
        | .note (.fault _), _ => rfl
        | .note (.refused _), _ => rfl
        | .note (.tickerStopped _), _ => rfl
        | .note (.loaded _), _ => rfl
        | .note (.finished ..), _ => rfl
        | .emit _, _ => rfl
      rw [dispatch_of_some hget, List.flatMap_cons, hrest]
      rfl

theorem Dispatches.dispatched_eq {e : Engine} {i : Instruction} {position : Nat}
    (h : e.Dispatches i position) :
    e.tick.signals.flatMap Signal.dispatched = [(position, i)] := by
  obtain ⟨hready, hdue, hnext, hget⟩ := dispatches_iff.mp h
  rw [tick_of_due hready hdue, dispatched_dispatch, nextPosition_still, program_still, hnext, hget]
  rfl

/-! ## What decides -/

/-- The part of an engine that decides what it does next: neither its memo nor its clock, and
nothing of what it has done. -/
def bare (e : Engine) : Engine :=
  { program := e.program
    memo := {}
    tape := e.tape
    ip := e.ip
    blocked := e.blocked
    fault := e.fault }

theorem eq_of_bare {e e' : Engine} (h : e.bare = e'.bare) :
    e.program = e'.program ∧ e.tape = e'.tape ∧ e.ip = e'.ip ∧ e.blocked = e'.blocked ∧
      e.fault = e'.fault := by
  obtain ⟨hprogram, -, htape, hip, -, hblocked, -, -, hfault⟩ := Engine.mk.inj h
  exact ⟨hprogram, htape, hip, hblocked, hfault⟩

theorem nextPosition_of_bare {e e' : Engine} (h : e.bare = e'.bare) :
    e.nextPosition = e'.nextPosition := by
  unfold nextPosition
  rw [(eq_of_bare h).2.2.1]

theorem Ready.of_bare {e e' : Engine} (hready : e.Ready) (h : e.bare = e'.bare) : e'.Ready where
  fault_eq := (congrArg fault h).symm.trans hready.fault_eq
  halted_eq := (congrArg halted h).symm.trans hready.halted_eq
  blocked_eq := (congrArg blocked h).symm.trans hready.blocked_eq

theorem bare_perform {e e' : Engine} (h : e.bare = e'.bare) (hsound : e.memo.Sound e.program)
    (hsound' : e'.memo.Sound e'.program) {i : Instruction} {position : Nat}
    (hget : e.program.get? position = some i) :
    (e.perform i position).engine.bare = (e'.perform i position).engine.bare := by
  have hbracket : ∀ d : Direction, i = d.bracket →
      (e.perform i position).engine.bare = (e'.perform i position).engine.bare := by
    rintro d rfl
    obtain ⟨hprogram, htape, -, -, -⟩ := eq_of_bare h
    cases hjumps : d.jumps e.tape.read with
    | false =>
        rw [perform_of_stays hjumps, perform_of_stays (htape ▸ hjumps)]
        exact h
    | true =>
        have hpartner : e'.program.partner position d = e.program.partner position d := by
          rw [hprogram]
        rw [perform_of_jumps hjumps, perform_of_jumps (htape ▸ hjumps), jump_eq hsound hget,
          jump_eq hsound' (hprogram ▸ hget), hpartner]
        cases e.program.partner position d with
        | ok target => exact congrArg (fun b : Engine => { b with ip := some target }) h
        | error fault => exact congrArg (fun b : Engine => { b with fault := some fault }) h
  cases i with
  | right => exact congrArg (fun b : Engine => { b with tape := b.tape.right }) h
  | left => exact congrArg (fun b : Engine => { b with tape := b.tape.left }) h
  | increment => exact congrArg (fun b : Engine => { b with tape := b.tape.increment }) h
  | decrement => exact congrArg (fun b : Engine => { b with tape := b.tape.decrement }) h
  | output => exact h
  | input => exact congrArg (fun b : Engine => { b with blocked := true }) h
  | loopStart => exact hbracket .forward rfl
  | loopEnd => exact hbracket .backward rfl

/-- Two engines that agree in what decides carry out the same instruction and agree again. -/
theorem bare_dispatch {e e' : Engine} (h : e.bare = e'.bare) (hsound : e.memo.Sound e.program)
    (hsound' : e'.memo.Sound e'.program) :
    e.dispatch.engine.bare = e'.dispatch.engine.bare ∧
      e.dispatch.signals.flatMap Signal.dispatched =
        e'.dispatch.signals.flatMap Signal.dispatched := by
  have hprogram := (eq_of_bare h).1
  have hnext := nextPosition_of_bare h
  have hstarted : e.started.bare = e'.started.bare :=
    congrArg (fun b : Engine => { b with ip := some b.nextPosition }) h
  constructor
  · cases hget : e.program.get? e.nextPosition with
    | none =>
        rw [dispatch_of_none hget, dispatch_of_none (hprogram ▸ hnext ▸ hget)]
        exact hstarted
    | some i =>
        rw [dispatch_of_some hget, dispatch_of_some (hprogram ▸ hnext ▸ hget), ← hnext]
        exact bare_perform hstarted hsound hsound' hget
  · rw [dispatched_dispatch, dispatched_dispatch, hprogram, hnext]

/-- What a call other than a reset can be. -/
inductive CallEvent (e : Engine) (c : Call) : Prop where
  /-- Nothing that decides is changed, and nothing is carried out or taken. -/
  | idle (hbare : (e.call c).engine.bare = e.bare)
      (htrail : (e.call c).signals.flatMap Signal.dispatched = [])
      (htaken : c.taken (e.call c).answer = [])
  /-- A value is taken. -/
  | value (v : Int64) (hcall : c = .deliver v) (hblocked : e.blocked = true)
  /-- The next instruction is carried out, or the program ends. -/
  | act (hcall : c = .tick) (hready : e.Ready) (hdue : e.clock.count.isDue = true)

theorem call_event (e : Engine) {c : Call} (hreset : c ≠ .reset) : e.CallEvent c := by
  cases c with
  | tick =>
      rcases e.tick_cases with ⟨_, _, h⟩ | ⟨_, _, h⟩ | ⟨_, _, _, h⟩ | ⟨_, _, h⟩ | ⟨hready, hdue, _⟩
      · exact .idle (by rw [call, h]) (by rw [call, h]; rfl) rfl
      · exact .idle (by rw [call, h]) (by rw [call, h]; rfl) rfl
      · exact .idle (by rw [call, h]; rfl) (by rw [call, h]; rfl) rfl
      · exact .idle (by rw [call, h]; rfl) (by rw [call, h]; rfl) rfl
      · exact .act rfl hready hdue
  | deliver v =>
      cases hblocked : e.blocked with
      | true => exact .value v rfl hblocked
      | false =>
          have hcall : e.call (.deliver v) = ⟨e, .taken false, []⟩ := by
            rw [call, deliver_of_not_blocked hblocked]
          exact .idle (by rw [hcall]) (by rw [hcall]; rfl) (by rw [hcall]; rfl)
  | reset => exact absurd rfl hreset

/-! ## Fair schedules -/

/-- The schedule keeps the engine going: ticks never stop, a value comes whenever one is waited
for, and there is no reset. -/
structure Fair (e : Engine) (σ : Stream' Call) : Prop where
  /-- There is always another tick. -/
  ticks : ∀ n, ∃ m, n ≤ m ∧ σ.get m = .tick
  /-- A value that is waited for comes some time. -/
  values : ∀ n, (e.after (σ.take n)).blocked = true → ∃ m v, n ≤ m ∧ σ.get m = .deliver v
  /-- The engine is not reset. -/
  steady : ∀ n, σ.get n ≠ .reset

/-- What is left of a fair schedule is fair to the engine by then. -/
theorem Fair.drop {e : Engine} {σ : Stream' Call} (h : e.Fair σ) (n : Nat) :
    (e.after (σ.take n)).Fair (σ.drop n) where
  ticks k := by
    obtain ⟨m, hm, htick⟩ := h.ticks (n + k)
    refine ⟨m - n, by omega, ?_⟩
    rw [Stream'.get_drop, Nat.add_sub_cancel' (by omega)]
    exact htick
  values k hblocked := by
    rw [← after_append, ← Stream'.take_add] at hblocked
    obtain ⟨m, v, hm, hvalue⟩ := h.values (n + k) hblocked
    refine ⟨m - n, v, by omega, ?_⟩
    rw [Stream'.get_drop, Nat.add_sub_cancel' (by omega)]
    exact hvalue
  steady k := by
    rw [Stream'.get_drop]
    exact h.steady (n + k)

theorem Fair.reset_not_mem_take {e : Engine} {σ : Stream' Call} (h : e.Fair σ) (n : Nat) :
    Call.reset ∉ σ.take n := by
  intro hmem
  obtain ⟨k, hk⟩ := List.mem_iff_getElem?.mp hmem
  have hlt : k < n := by
    obtain ⟨hlt, -⟩ := List.getElem?_eq_some_iff.mp hk
    rwa [Stream'.length_take] at hlt
  rw [Stream'.getElem?_take hlt] at hk
  exact h.steady k (Option.some.inj hk)

/-- The first `m` calls of the schedule change nothing that decides. -/
structure Idles (e : Engine) (σ : Stream' Call) (m : Nat) : Prop where
  bare_eq : ∀ n, n ≤ m → (e.after (σ.take n)).bare = e.bare
  trail_eq : e.trail (σ.take m) = []
  consumed_eq : e.consumed (σ.take m) = []

namespace Idles

variable {e : Engine} {σ : Stream' Call}

theorem zero : e.Idles σ 0 where
  bare_eq := by
    intro n hn
    obtain rfl := Nat.le_zero.mp hn
    rfl
  trail_eq := rfl
  consumed_eq := rfl

/-- One call that changes nothing. -/
theorem one (hbare : (e.call σ.head).engine.bare = e.bare)
    (htrail : (e.call σ.head).signals.flatMap Signal.dispatched = [])
    (htaken : σ.head.taken (e.call σ.head).answer = []) : e.Idles σ 1 where
  bare_eq := by
    intro n hn
    cases n with
    | zero => rfl
    | succ n =>
        obtain rfl : n = 0 := by omega
        exact hbare
  trail_eq := by
    rw [Stream'.take_succ, trail_cons, htrail]
    rfl
  consumed_eq := by
    rw [Stream'.take_succ, consumed, htaken]
    rfl

theorem trans {m n : Nat} (h : e.Idles σ m) (h' : (e.after (σ.take m)).Idles (σ.drop m) n) :
    e.Idles σ (m + n) where
  bare_eq := by
    intro k hk
    by_cases hfirst : k ≤ m
    · exact h.bare_eq k hfirst
    · obtain ⟨d, rfl⟩ := Nat.exists_eq_add_of_le (Nat.le_of_not_le hfirst)
      rw [Stream'.take_add, after_append]
      exact (h'.bare_eq d (by omega)).trans (h.bare_eq m (Nat.le_refl m))
  trail_eq := by
    rw [Stream'.take_add, trail_append, h.trail_eq, h'.trail_eq]
    rfl
  consumed_eq := by
    rw [Stream'.take_add, consumed_append, h.consumed_eq, h'.consumed_eq]
    rfl

end Idles

/-- A value that is waited for comes after finitely many calls that change nothing.  The induction
is on the place of some value in the schedule. -/
theorem Fair.exists_value {e : Engine} {σ : Stream' Call} (h : e.Fair σ)
    (hblocked : e.blocked = true) : ∃ m v, e.Idles σ m ∧ σ.get m = .deliver v := by
  obtain ⟨k, w, -, hvalue⟩ := h.values 0 hblocked
  induction k generalizing e σ with
  | zero => exact ⟨0, w, .zero, hvalue⟩
  | succ k ih =>
      cases e.call_event (h.steady 0) with
      | value v hcall _ => exact ⟨0, v, .zero, hcall⟩
      | act _ hready _ => exact absurd (hblocked.symm.trans hready.blocked_eq) (by simp)
      | idle hbare htrail htaken =>
          have hnext : (e.after (σ.take 1)).blocked = true :=
            (eq_of_bare hbare).2.2.2.1.trans hblocked
          obtain ⟨m, v, hidles, hget⟩ := ih (h.drop 1) hnext hvalue
          rw [Stream'.get_drop] at hget
          exact ⟨1 + m, v, (Idles.one hbare htrail htaken).trans hidles, hget⟩

/-- Before the next tick an engine that waits for no value is left as it is. -/
theorem Fair.exists_tick {e : Engine} {σ : Stream' Call} (h : e.Fair σ)
    (hblocked : e.blocked = false) :
    ∃ m, e.Idles σ m ∧ e.after (σ.take m) = e ∧ σ.get m = .tick := by
  obtain ⟨k, -, htick⟩ := h.ticks 0
  induction k generalizing σ with
  | zero => exact ⟨0, .zero, rfl, htick⟩
  | succ k ih =>
      cases hhead : σ.head with
      | tick => exact ⟨0, .zero, rfl, hhead⟩
      | reset => exact absurd hhead (h.steady 0)
      | deliver v =>
          have hcall : e.call σ.head = ⟨e, .taken false, []⟩ := by
            rw [hhead, call, deliver_of_not_blocked hblocked]
          have hafter : e.after (σ.take 1) = e := congrArg Reply.engine hcall
          have hone : e.Idles σ 1 := by
            refine .one ?_ ?_ ?_
            · rw [hcall]
            · rw [hcall]; rfl
            · rw [hcall, hhead]; rfl
          obtain ⟨m, hidles, hsame, hget⟩ := ih (hafter ▸ h.drop 1) htick
          rw [Stream'.get_drop] at hget
          refine ⟨1 + m, hone.trans (hafter.symm ▸ hidles), ?_, hget⟩
          rw [Stream'.take_add, after_append, hafter, hsame]

/-- A tick that carries out the next instruction comes after finitely many calls that change
nothing.  The induction is on the number of ticks that are missing. -/
theorem Fair.exists_act {e : Engine} {σ : Stream' Call} (h : e.Fair σ) (hready : e.Ready) :
    ∃ m, e.Idles σ m ∧ σ.get m = .tick ∧
      (e.after (σ.take m)).clock.count.isDue = true := by
  induction hmissing : e.clock.threshold - e.clock.acc using Nat.strongRecOn generalizing e σ with
  | ind missing ih =>
      obtain ⟨k, hwait, hsame, htick⟩ := h.exists_tick hready.blocked_eq
      cases hdue : e.clock.count.isDue with
      | true => exact ⟨k, hwait, htick, hsame.symm ▸ hdue⟩
      | false =>
          have hhead : (σ.drop k).head = .tick := (Stream'.head_drop σ k).trans htick
          have hcall : e.call (σ.drop k).head = ⟨e.counted, .outcome .idle, []⟩ := by
            rw [hhead, call, tick_of_early hready hdue]
          have hone : e.Idles (σ.drop k) 1 := by
            refine .one ?_ ?_ ?_
            · rw [hcall]; rfl
            · rw [hcall]; rfl
            · rw [hcall, hhead]; rfl
          have hidle : e.Idles σ (k + 1) := hwait.trans (hsame.symm ▸ hone)
          have hafter : e.after (σ.take (k + 1)) = e.counted := by
            rw [Stream'.take_add, after_append, hsame]
            exact congrArg Reply.engine hcall
          have hfewer : e.counted.clock.threshold - e.counted.clock.acc < missing := by
            have hearly : ¬e.clock.threshold ≤ e.clock.acc + 1 := of_decide_eq_false hdue
            change e.clock.threshold - (e.clock.acc + 1) < missing
            omega
          have hfair : e.counted.Fair (σ.drop (k + 1)) := hafter ▸ h.drop (k + 1)
          have hcounted : e.counted.Ready := hready.of_bare rfl
          obtain ⟨m, hidles, hget, hdue'⟩ := ih _ hfewer hfair hcounted rfl
          rw [Stream'.get_drop] at hget
          refine ⟨k + 1 + m, hidle.trans (hafter.symm ▸ hidles), hget, ?_⟩
          rw [Stream'.take_add, after_append, hafter]
          exact hdue'

/-- The next instruction of a program is carried out under every fair schedule. -/
theorem Fair.exists_dispatches {e : Engine} {σ : Stream' Call} (h : e.Fair σ) (hready : e.Ready)
    {i : Instruction} {position : Nat} (hnext : e.nextPosition = position)
    (hget : e.program.get? position = some i) :
    ∃ m, e.Idles σ m ∧ σ.get m = .tick ∧ (e.after (σ.take m)).Dispatches i position := by
  obtain ⟨m, hidles, htick, hdue⟩ := h.exists_act hready
  have hbare := hidles.bare_eq m (Nat.le_refl m)
  refine ⟨m, hidles, htick, dispatches_iff.mpr ⟨hready.of_bare hbare.symm, hdue, ?_, ?_⟩⟩
  · rw [nextPosition_of_bare hbare, hnext]
  · rw [(eq_of_bare hbare).1, hget]

/-! ## The values that come -/

/-- The parts of the first elements of a sequence are parts of the sequence. -/
theorem take_of_append {α : Type} {s : Stream' α} {first second : List α} {k : Nat}
    (h : first ++ second = s.take k) :
    first = s.take first.length ∧ second = (s.drop first.length).take second.length := by
  have hlength : first.length + second.length = k := by
    rw [← List.length_append, h, Stream'.length_take]
  rw [← hlength, Stream'.take_add] at h
  exact List.append_inj h (Stream'.length_take _ _).symm

/-- The values taken under a schedule are the first ones of one endless sequence. -/
theorem exists_inputs (e : Engine) (σ : Stream' Call) :
    ∃ inputs : Stream' Int64, ∀ n, ∃ k, e.consumed (σ.take n) = inputs.take k := by
  have hlater : ∀ {n d k : Nat} {v : Int64}, (e.consumed (σ.take n))[k]? = some v →
      (e.consumed (σ.take (n + d)))[k]? = some v := by
    intro n d k v h
    obtain ⟨hlt, -⟩ := List.getElem?_eq_some_iff.mp h
    rw [Stream'.take_add, consumed_append, List.getElem?_append_left hlt, h]
  have hvalue : ∀ k : Nat, ∃ v : Int64, ∀ (n : Nat) (w : Int64),
      (e.consumed (σ.take n))[k]? = some w → w = v := by
    intro k
    rcases Classical.em (∃ v m, (e.consumed (σ.take m))[k]? = some v) with ⟨v, m, hv⟩ | hnone
    · refine ⟨v, fun n w hw => Option.some.inj ?_⟩
      rw [← hlater (d := m) hw, Nat.add_comm, hlater hv]
    · exact ⟨0, fun n w hw => absurd ⟨w, n, hw⟩ hnone⟩
  obtain ⟨inputs, hinputs⟩ : ∃ inputs : Stream' Int64, ∀ (k n : Nat) (w : Int64),
      (e.consumed (σ.take n))[k]? = some w → w = inputs.get k := Classical.axiomOfChoice hvalue
  refine ⟨inputs, fun n => ⟨(e.consumed (σ.take n)).length, ?_⟩⟩
  refine List.ext_getElem (Stream'.length_take _ _).symm fun k hk hk' => ?_
  have htaken : (inputs.take (e.consumed (σ.take n)).length)[k]? = some (inputs.get k) :=
    Stream'.getElem?_take hk
  rw [List.getElem?_eq_getElem hk', Option.some.injEq] at htaken
  rw [htaken]
  exact hinputs k n _ (List.getElem?_eq_getElem hk)

/-! ## The same instructions under every fair schedule -/

/-- What the first call after the idle ones adds. -/
theorem Idles.take_succ {e : Engine} {σ : Stream' Call} {m : Nat} (h : e.Idles σ m) {c : Call}
    (hget : σ.get m = c) :
    e.after (σ.take (m + 1)) = ((e.after (σ.take m)).call c).engine ∧
    e.trail (σ.take (m + 1)) =
      ((e.after (σ.take m)).call c).signals.flatMap Signal.dispatched ∧
    e.consumed (σ.take (m + 1)) = c.taken ((e.after (σ.take m)).call c).answer := by
  rw [Stream'.take_succ', hget, after_append, trail_append, consumed_append, h.trail_eq,
    h.consumed_eq]
  refine ⟨rfl, ?_, ?_⟩
  · rw [List.nil_append, trail_cons]
    exact List.append_nil _
  · rw [List.nil_append, consumed]
    exact List.append_nil _

theorem sound_after {e : Engine} (h : e.memo.Sound e.program) (calls : List Call) :
    (e.after calls).memo.Sound (e.after calls).program :=
  after_induction (P := fun e => e.memo.Sound e.program)
    (fun _ c h => memo_sound_call h c) calls e h

/-- What a call does is done under a fair schedule that brings the same value, if it is one. -/
theorem Fair.exists_alike_call {e e' : Engine} {σ : Stream' Call} {inputs : Stream' Int64}
    (h : e'.Fair σ) (hsound : e.memo.Sound e.program) (hsound' : e'.memo.Sound e'.program)
    (hbare : e.bare = e'.bare) {c : Call} (hreset : c ≠ .reset) {k : Nat}
    (hvalue : c.taken (e.call c).answer = inputs.take k)
    (hvalues : ∀ n, ∃ k, e'.consumed (σ.take n) = inputs.take k) :
    ∃ n, (e.call c).engine.bare = (e'.after (σ.take n)).bare ∧
      (e.call c).signals.flatMap Signal.dispatched = e'.trail (σ.take n) ∧
      c.taken (e.call c).answer = e'.consumed (σ.take n) := by
  cases e.call_event hreset with
  | idle hsame htrail htaken => exact ⟨0, hsame.trans hbare, htrail, htaken⟩
  | value v hcall hblocked =>
      obtain ⟨m, w, hidles, hget⟩ := h.exists_value ((eq_of_bare hbare).2.2.2.1.symm.trans hblocked)
      obtain ⟨hafter, htrail, hconsumed⟩ := hidles.take_succ hget
      have hsame := hbare.trans (hidles.bare_eq m (Nat.le_refl m)).symm
      have hblocked' := (eq_of_bare hsame).2.2.2.1.symm.trans hblocked
      subst hcall
      simp only [call, deliver_of_blocked hblocked, deliver_of_blocked hblocked', Call.taken]
        at hvalue hafter htrail hconsumed ⊢
      -- Both values are the first one of the sequence.
      obtain ⟨k', hvalue'⟩ := hvalues (m + 1)
      rw [hconsumed] at hvalue'
      have hk : 1 = k := (congrArg List.length hvalue).trans (Stream'.length_take k inputs)
      have hk' : 1 = k' := (congrArg List.length hvalue').trans (Stream'.length_take k' inputs)
      have hvw : [v] = [w] := by rw [hvalue, hvalue', ← hk, ← hk']
      refine ⟨m + 1, ?_, htrail.symm, hvw.trans hconsumed.symm⟩
      rw [hafter, ← List.head_eq_of_cons_eq hvw]
      exact congrArg (fun b : Engine => { b with tape := b.tape.write v, blocked := false }) hsame
  | act hcall hready hdue =>
      obtain ⟨m, hidles, hget, hdue'⟩ := h.exists_act (hready.of_bare hbare)
      obtain ⟨hafter, htrail, hconsumed⟩ := hidles.take_succ hget
      have hsame : e.still.bare = (e'.after (σ.take m)).still.bare :=
        hbare.trans (hidles.bare_eq m (Nat.le_refl m)).symm
      have htick : e.tick = e.still.dispatch := tick_of_due hready hdue
      have htick' : (e'.after (σ.take m)).tick = (e'.after (σ.take m)).still.dispatch :=
        tick_of_due ((hready.of_bare hbare).of_bare (hidles.bare_eq m (Nat.le_refl m)).symm) hdue'
      obtain ⟨hengine, hsignals⟩ := bare_dispatch hsame hsound (sound_after hsound' (σ.take m))
      refine ⟨m + 1, ?_, ?_, ?_⟩
      · rw [hafter, hcall, call, call, htick, htick', hengine]
      · rw [htrail, hcall, call, call, htick, htick', hsignals]
      · rw [hconsumed, hcall, Call.taken_tick, Call.taken_tick]

/-- Whatever a history does from an engine is done under every fair schedule that brings the same
values, from every engine that agrees in what decides.  The induction is on the history; a call
that changes something is met by the schedule after finitely many that do not. -/
theorem Fair.exists_alike (calls : List Call) :
    ∀ {e e' : Engine} {σ : Stream' Call} {inputs : Stream' Int64},
      e.memo.Sound e.program → e'.memo.Sound e'.program → e.bare = e'.bare → e'.Fair σ →
      Call.reset ∉ calls → (∃ k, e.consumed calls = inputs.take k) →
      (∀ n, ∃ k, e'.consumed (σ.take n) = inputs.take k) →
      ∃ n, (e.after calls).bare = (e'.after (σ.take n)).bare ∧
        e.trail calls = e'.trail (σ.take n) := by
  induction calls with
  | nil =>
      intro e e' σ inputs _ _ hbare _ _ _ _
      exact ⟨0, hbare, rfl⟩
  | cons c rest ih =>
      intro e e' σ inputs hsound hsound' hbare hfair hreset hconsumed hvalues
      have hc : c ≠ .reset := fun h => hreset (h ▸ List.mem_cons_self)
      have hrest : Call.reset ∉ rest := fun h => hreset (List.mem_cons_of_mem c h)
      obtain ⟨k, hk⟩ := hconsumed
      obtain ⟨hfirst, hsecond⟩ := take_of_append hk
      obtain ⟨m, hsame, htrail, htaken⟩ :=
        hfair.exists_alike_call hsound hsound' hbare hc hfirst hvalues
      -- The values that come after those of the first call are the rest of the sequence.
      have hvalues' : ∀ n, ∃ k, (e'.after (σ.take m)).consumed ((σ.drop m).take n) =
          (inputs.drop (c.taken (e.call c).answer).length).take k := by
        intro n
        obtain ⟨k', hk'⟩ := hvalues (m + n)
        rw [Stream'.take_add, consumed_append, ← htaken] at hk'
        exact ⟨_, (take_of_append hk').2⟩
      obtain ⟨n, hend, hlater⟩ := ih (memo_sound_call hsound c) (sound_after hsound' (σ.take m))
        hsame (hfair.drop m) hrest ⟨_, hsecond⟩ hvalues'
      refine ⟨m + n, ?_, ?_⟩
      · rw [Stream'.take_add, after_append]
        exact hend
      · rw [Stream'.take_add, trail_append, trail_cons, htrail, hlater]

end Engine

end TapeConsole
