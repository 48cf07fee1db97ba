import TapeConsole.Headless
import TapeConsole.Proofs.Calls
set_option autoImplicit false

/-!
# Passes of a headless run

A pass of a headless run is a tick of its engine, after a delivery if a value is
waited for.  The machine around the engine only passes signals on, so what a pass
does to the engine, and whether it ends the run, is decided by the engine alone.

A run ends if some number of passes is enough for it (`Headless.Ends`); a larger
number then gives the same result (`Headless.runFor_of_le`), so it ends in one
way only.  A run that no number of passes is enough for goes on for ever.
-/

namespace TapeConsole

/-! ## The engine of a machine -/

namespace Machine

theorem engine_accept (m : Machine) (signal : Signal) : (m.accept signal).engine = m.engine := by
  cases signal <;> rfl

@[simp] theorem engine_advance (m : Machine) (e : Engine) (signals : List Signal) :
    (m.advance e signals).engine = e := by
  have hfold : ∀ m' : Machine, (signals.foldl accept m').engine = m'.engine := by
    induction signals with
    | nil => exact fun _ => rfl
    | cons signal rest ih => exact fun m' => (ih _).trans (engine_accept m' signal)
  exact hfold _

@[simp] theorem engine_tick (m : Machine) : m.tick.1.engine = m.engine.tick.engine :=
  engine_advance m _ _

@[simp] theorem engine_deliver (m : Machine) (v : Int64) :
    (m.deliver v).1.engine = (m.engine.deliver v).1 :=
  engine_advance m _ _

end Machine

namespace Headless

/-! ## One pass -/

namespace State

/-- The run after one more tick of its machine. -/
def ticked (s : State) : State := { s with machine := s.machine.tick.1, ticks := s.ticks + 1 }

@[simp] theorem engine_ticked (s : State) :
    s.ticked.machine.engine = s.machine.engine.tick.engine :=
  s.machine.engine_tick

@[simp] theorem reader_ticked (s : State) : s.ticked.reader = s.reader := rfl

theorem tick_of_halted {s : State} (h : s.machine.engine.tick.outcome = .halted) :
    s.tick = ⟨s.ticked, some (.ok s.ticked.summary)⟩ := by
  simp only [tick, Machine.tick, h]
  rfl

theorem tick_of_faulted {s : State} {fault : Fault}
    (h : s.machine.engine.tick.outcome = .faulted fault) :
    s.tick = ⟨s.ticked, some (.error (.engine fault))⟩ := by
  simp only [tick, Machine.tick, h]
  rfl

theorem tick_of_idle {s : State} (h : s.machine.engine.tick.outcome = .idle) :
    s.tick = ⟨s.ticked, none⟩ := by
  simp only [tick, Machine.tick, h]
  rfl

theorem tick_of_dispatched {s : State} {i : Instruction}
    (h : s.machine.engine.tick.outcome = .dispatched i) : s.tick = ⟨s.ticked, none⟩ := by
  simp only [tick, Machine.tick, h]
  rfl

/-- The run with a value delivered, and what is left of the reader. -/
def supplied (s : State) (v : Int64) (reader : List ReadEvent) : State :=
  { s with machine := (s.machine.deliver v).1, reader := reader }

@[simp] theorem engine_supplied (s : State) (v : Int64) (reader : List ReadEvent) :
    (s.supplied v reader).machine.engine = (s.machine.engine.deliver v).1 :=
  s.machine.engine_deliver v

theorem step_of_not_blocked {s : State} (h : s.machine.engine.blocked = false) :
    s.step none = s.tick := by
  simp [step, atLimit, h]

theorem step_of_blocked {s : State} {v : Int64} {reader : List ReadEvent}
    (h : s.machine.engine.blocked = true) (hread : ReadEvent.next s.reader = (.ok v, reader)) :
    s.step none = (s.supplied v reader).tick := by
  simp [step, atLimit, h, hread, supplied]

/-- What a pass can be. -/
inductive PassEvent (limit : Option Nat) (s : State) : Prop where
  /-- The limit allows no tick, and the run ends. -/
  | stopped (hlimit : atLimit limit s.ticks = true)
      (hstep : s.step limit = ⟨s, some (.error (.tickLimit s.ticks))⟩)
  /-- A value is waited for and cannot be read, and the run ends. -/
  | unread (reason : String) (reader : List ReadEvent) (hlimit : atLimit limit s.ticks = false)
      (hblocked : s.machine.engine.blocked = true)
      (hread : ReadEvent.next s.reader = (.error reason, reader))
      (hstep : s.step limit = ⟨{ s with reader := reader }, some (.error (.input reason))⟩)
  /-- A value is waited for, read and delivered, and the machine ticks. -/
  | answers (v : Int64) (reader : List ReadEvent) (hlimit : atLimit limit s.ticks = false)
      (hblocked : s.machine.engine.blocked = true)
      (hread : ReadEvent.next s.reader = (.ok v, reader))
      (hstep : s.step limit = (s.supplied v reader).tick)
  /-- No value is waited for, and the machine ticks. -/
  | ticks (hlimit : atLimit limit s.ticks = false) (hblocked : s.machine.engine.blocked = false)
      (hstep : s.step limit = s.tick)

theorem pass_event (limit : Option Nat) (s : State) : s.PassEvent limit := by
  cases hlimit : atLimit limit s.ticks with
  | true => exact .stopped hlimit (by simp [step, hlimit])
  | false =>
      cases hblocked : s.machine.engine.blocked with
      | false => exact .ticks hlimit hblocked (by simp [step, hlimit, hblocked])
      | true =>
          rcases hread : ReadEvent.next s.reader with ⟨reason | v, reader⟩
          · exact .unread reason reader hlimit hblocked hread
              (by simp [step, hlimit, hblocked, hread])
          · exact .answers v reader hlimit hblocked hread
              (by simp [step, hlimit, hblocked, hread, supplied])

end State

/-! ## The loop -/

theorem runFor_of_ended {limit : Option Nat} {s s' : State} {result : Except Failure Summary}
    (h : s.step limit = ⟨s', some result⟩) (fuel : Nat) :
    runFor (fuel + 1) limit s = some (s', result) := by
  rw [runFor, h]

theorem runFor_of_going {limit : Option Nat} {s s' : State} (h : s.step limit = ⟨s', none⟩)
    (fuel : Nat) : runFor (fuel + 1) limit s = runFor fuel limit s' := by
  rw [runFor, h]

/-- More passes than are needed change nothing. -/
theorem runFor_of_le {limit : Option Nat} {r : State × Except Failure Summary} :
    ∀ {fuel more : Nat} {s : State}, runFor fuel limit s = some r → fuel ≤ more →
      runFor more limit s = some r := by
  intro fuel
  induction fuel with
  | zero =>
      intro more s h _
      cases h
  | succ fuel ih =>
      intro more s h hle
      obtain ⟨more, rfl⟩ : ∃ n, more = n + 1 := ⟨more - 1, by omega⟩
      rcases hstep : s.step limit with ⟨s', _ | result⟩
      · rw [runFor_of_going hstep] at h ⊢
        exact ih h (by omega)
      · rw [runFor_of_ended hstep] at h ⊢
        exact h

/-- The run ends in this state and with this result, however many passes it takes. -/
def Ends (limit : Option Nat) (s s' : State) (result : Except Failure Summary) : Prop :=
  ∃ fuel, runFor fuel limit s = some (s', result)

theorem ends_of_ended {limit : Option Nat} {s s' : State} {result : Except Failure Summary}
    (h : s.step limit = ⟨s', some result⟩) : Ends limit s s' result :=
  ⟨1, runFor_of_ended h 0⟩

theorem ends_of_going {limit : Option Nat} {s t s' : State} {result : Except Failure Summary}
    (h : s.step limit = ⟨t, none⟩) (hends : Ends limit t s' result) : Ends limit s s' result := by
  obtain ⟨fuel, hfuel⟩ := hends
  refine ⟨fuel + 1, ?_⟩
  rw [runFor_of_going h, hfuel]

/-- A run ends in one way only. -/
theorem Ends.unique {limit : Option Nat} {s s' s'' : State}
    {result result' : Except Failure Summary} (h : Ends limit s s' result)
    (h' : Ends limit s s'' result') : s' = s'' ∧ result = result' := by
  obtain ⟨fuel, hfuel⟩ := h
  obtain ⟨fuel', hfuel'⟩ := h'
  have hmore := runFor_of_le hfuel (Nat.le_max_left fuel fuel')
  have hmore' := runFor_of_le hfuel' (Nat.le_max_right fuel fuel')
  exact Prod.mk.inj (Option.some.inj (hmore.symm.trans hmore'))

end Headless

end TapeConsole
