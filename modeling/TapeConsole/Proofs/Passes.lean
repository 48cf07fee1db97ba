import TapeConsole.Proofs.Transcript
set_option autoImplicit false

/-!
# The states of a headless run

`Headless.State.passes` follows a headless run pass by pass, also one that never
ends.  As long as the run goes on, every pass makes one tick
(`Headless.runFor_of_none`).

To its machine a run is a history of ticks and deliveries
(`Headless.State.exists_calls_passes`), so what is known of histories holds of
runs.  Here that is used for the bytes: a sink never takes back what it holds, and
the bytes written by some pass are the first ones of those written by any later
pass.
-/

namespace TapeConsole

/-! ## A sink keeps what it holds -/

theorem Sink.held_emit (sink : Sink) (c : Char) : sink.held <+: (sink.emit c).1.held := by
  cases sink with
  | bytes writer =>
      refine ⟨(charBytes c).take (writer.room (charBytes c).length), ?_⟩
      simp [held, emit, ByteWriter.write]
  | _ => exact List.nil_prefix

namespace Machine

theorem held_foldl_accept (signals : List Signal) :
    ∀ m : Machine, m.sink.held <+: (signals.foldl accept m).sink.held := by
  induction signals with
  | nil => intro m; exact List.prefix_rfl
  | cons signal rest ih =>
      intro m
      cases signal with
      | note record => exact ih (m.note record)
      | emit c => exact (m.sink.held_emit c).trans (ih (m.accept (.emit c)))

/-- A history only adds to the bytes that have been written. -/
theorem held_after (m : Machine) (calls : List Call) :
    m.sink.held <+: (m.after calls).sink.held := by
  rw [after_eq_advance]
  exact held_foldl_accept _ { m with engine := m.engine.after calls }

theorem after_append (first second : List Call) :
    ∀ m : Machine, m.after (first ++ second) = (m.after first).after second := by
  induction first with
  | nil => intro m; rfl
  | cons c rest ih => intro m; exact ih (m.call c).1

end Machine

namespace Headless

namespace State

/-! ## One pass -/

/-- The bytes written so far. -/
def written (s : State) : List UInt8 := s.machine.sink.held

/-- What a tick is to the run: it goes on, ends well, or ends with a fault. -/
theorem tick_cases (s : State) :
    s.tick = ⟨s.ticked, none⟩ ∨ s.tick = ⟨s.ticked, some (.ok s.ticked.summary)⟩ ∨
      ∃ fault, s.tick = ⟨s.ticked, some (.error (.engine fault))⟩ := by
  cases houtcome : s.machine.engine.tick.outcome with
  | idle => exact .inl (tick_of_idle houtcome)
  | dispatched i => exact .inl (tick_of_dispatched houtcome)
  | halted => exact .inr (.inl (tick_of_halted houtcome))
  | faulted fault => exact .inr (.inr ⟨fault, tick_of_faulted houtcome⟩)
  | blocked =>
      left
      simp only [tick, Machine.tick, houtcome]
      rfl

theorem state_tick (s : State) : s.tick.state = s.ticked := by
  rcases s.tick_cases with h | h | ⟨fault, h⟩ <;> rw [h]

/-- Where a pass leads, and the ticks it makes. -/
inductive PassEnd (limit : Option Nat) (s : State) : Prop where
  /-- The limit stops the run. -/
  | stopped (hlimit : atLimit limit s.ticks = true)
      (hstep : s.step limit = ⟨s, some (.error (.tickLimit s.ticks))⟩)
  /-- A byte cannot be read, and no tick is made. -/
  | unread (reason : String) (reader : List ReadEvent)
      (hstep : s.step limit = ⟨{ s with reader := reader }, some (.error (.input reason))⟩)
  /-- One tick is made, and the run goes on. -/
  | goes (t : State) (hticks : t.ticks = s.ticks + 1) (hstep : s.step limit = ⟨t, none⟩)
  /-- One tick is made, and the program has come to its end. -/
  | ends (t : State) (hticks : t.ticks = s.ticks + 1)
      (hstep : s.step limit = ⟨t, some (.ok t.summary)⟩)
  /-- One tick is made, and it faults. -/
  | faults (t : State) (fault : Fault) (hticks : t.ticks = s.ticks + 1)
      (hstep : s.step limit = ⟨t, some (.error (.engine fault))⟩)

theorem pass_end (limit : Option Nat) (s : State) : s.PassEnd limit := by
  have hby_tick : ∀ u : State, u.ticks = s.ticks → s.step limit = u.tick → s.PassEnd limit := by
    intro u hticks hstep
    have hmade : u.ticked.ticks = s.ticks + 1 := congrArg (· + 1) hticks
    rcases u.tick_cases with hgoes | hends | ⟨fault, hfaults⟩
    · exact .goes u.ticked hmade (hstep.trans hgoes)
    · exact .ends u.ticked hmade (hstep.trans hends)
    · exact .faults u.ticked fault hmade (hstep.trans hfaults)
  cases s.pass_event limit with
  | stopped hlimit hstep => exact .stopped hlimit hstep
  | unread reason reader _ _ _ hstep => exact .unread reason reader hstep
  | ticks _ _ hstep => exact hby_tick s rfl hstep
  | answers v reader _ _ _ hstep => exact hby_tick (s.supplied v reader) rfl hstep

/-- A pass is a history of its machine: nothing, a tick, or a delivery and a tick. -/
theorem exists_calls_step (limit : Option Nat) (s : State) :
    ∃ calls, Call.reset ∉ calls ∧ (s.step limit).state.machine = s.machine.after calls := by
  cases s.pass_event limit with
  | stopped _ hstep => exact ⟨[], by simp, by rw [hstep]; rfl⟩
  | unread _ _ _ _ _ hstep => exact ⟨[], by simp, by rw [hstep]; rfl⟩
  | ticks _ _ hstep => exact ⟨[.tick], by simp, by rw [hstep, state_tick]; rfl⟩
  | answers v _ _ _ _ hstep =>
      exact ⟨[.deliver v, .tick], by simp, by rw [hstep, state_tick]; rfl⟩

/-! ## Pass by pass -/

/-- The state after `n` passes, or the one in which the run has ended before. -/
def passes (limit : Option Nat) : Nat → State → State
  | 0, s => s
  | n + 1, s =>
      match (s.step limit).result with
      | some _ => (s.step limit).state
      | none => passes limit n (s.step limit).state

theorem passes_of_ended {limit : Option Nat} {s s' : State} {result : Except Failure Summary}
    (h : s.step limit = ⟨s', some result⟩) (n : Nat) : s.passes limit (n + 1) = s' := by
  rw [passes, h]

theorem passes_of_going {limit : Option Nat} {s s' : State} (h : s.step limit = ⟨s', none⟩)
    (n : Nat) : s.passes limit (n + 1) = s'.passes limit n := by
  rw [passes, h]

/-- Any number of passes is a history of the machine. -/
theorem exists_calls_passes (limit : Option Nat) (n : Nat) :
    ∀ s : State, ∃ calls, Call.reset ∉ calls ∧
      (s.passes limit n).machine = s.machine.after calls := by
  induction n with
  | zero => intro s; exact ⟨[], by simp, rfl⟩
  | succ n ih =>
      intro s
      obtain ⟨calls, hreset, hmachine⟩ := s.exists_calls_step limit
      rcases hstep : s.step limit with ⟨t, _ | result⟩
      · rw [hstep] at hmachine
        obtain ⟨later, hlater, hrest⟩ := ih t
        refine ⟨calls ++ later, by simp [hreset, hlater], ?_⟩
        rw [passes_of_going hstep, hrest, hmachine, Machine.after_append]
      · rw [hstep] at hmachine
        exact ⟨calls, hreset, by rw [passes_of_ended hstep, hmachine]⟩

/-- Later passes only add to the bytes written. -/
theorem written_passes_of_le {limit : Option Nat} {n m : Nat} {s : State} (h : n ≤ m) :
    (s.passes limit n).written <+: (s.passes limit m).written := by
  induction n generalizing s m with
  | zero =>
      obtain ⟨calls, -, hmachine⟩ := s.exists_calls_passes limit m
      unfold written
      rw [hmachine]
      exact s.machine.held_after calls
  | succ n ih =>
      obtain ⟨m, rfl⟩ : ∃ k, m = k + 1 := ⟨m - 1, by omega⟩
      rcases hstep : s.step limit with ⟨t, _ | result⟩
      · rw [passes_of_going hstep, passes_of_going hstep]
        exact ih (by omega)
      · have hsame : s.passes limit (n + 1) = s.passes limit (m + 1) :=
          (passes_of_ended hstep n).trans (passes_of_ended hstep m).symm
        exact hsame ▸ List.prefix_rfl

end State

/-! ## Passes and the loop -/

/-- A run that has ended is in the state in which its passes come to rest. -/
theorem passes_of_runFor {limit : Option Nat} {fuel : Nat} {s s' : State}
    {result : Except Failure Summary} (h : runFor fuel limit s = some (s', result)) :
    s.passes limit fuel = s' := by
  induction fuel generalizing s with
  | zero => cases h
  | succ fuel ih =>
      rcases hstep : s.step limit with ⟨t, _ | early⟩
      · rw [runFor_of_going hstep] at h
        rw [State.passes_of_going hstep]
        exact ih h
      · rw [runFor_of_ended hstep] at h
        rw [State.passes_of_ended hstep]
        exact (Prod.mk.inj (Option.some.inj h)).1

/-- A pass that does not end the run makes one tick. -/
theorem ticks_of_going {limit : Option Nat} {s t : State} (h : s.step limit = ⟨t, none⟩) :
    t.ticks = s.ticks + 1 := by
  cases s.pass_end limit with
  | stopped _ hstep => cases hstep.symm.trans h
  | unread _ _ hstep => cases hstep.symm.trans h
  | ends _ _ hstep => cases hstep.symm.trans h
  | faults _ _ _ hstep => cases hstep.symm.trans h
  | goes _ hticks hstep =>
      cases hstep.symm.trans h
      exact hticks

/-- A run that has not ended after `n` passes has made `n` ticks, and goes on from there. -/
theorem runFor_of_none {limit : Option Nat} {n : Nat} {s : State} (h : runFor n limit s = none) :
    (s.passes limit n).ticks = s.ticks + n ∧
      ∀ m, runFor (n + m) limit s = runFor m limit (s.passes limit n) := by
  induction n generalizing s with
  | zero => exact ⟨rfl, fun m => by rw [Nat.zero_add]; rfl⟩
  | succ n ih =>
      rcases hstep : s.step limit with ⟨t, _ | result⟩
      · rw [runFor_of_going hstep] at h
        obtain ⟨hticks, hlater⟩ := ih h
        rw [State.passes_of_going hstep]
        refine ⟨?_, ?_⟩
        · rw [hticks, ticks_of_going hstep]
          omega
        · intro m
          rw [Nat.add_right_comm, runFor_of_going hstep, hlater]
      · rw [runFor_of_ended hstep] at h
        cases h

end Headless

end TapeConsole
