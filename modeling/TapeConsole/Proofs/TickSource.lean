import TapeConsole.App
import TapeConsole.Proofs.HeadlessRun
set_option autoImplicit false

/-!
# Resets and the tick thread

The tick thread and the keyboard use one machine, and their atomic steps may come
in any order.  A `Move` is one such step; a reset is two of them, with other moves
between them perhaps.

A reset looks at whether the thread has left, and not at whether it is about to.
A thread that has met a fault leaves one step later.  A reset is over before that
step or after it.  If after, a new thread is started, and there is one that goes
on until the next fault (`App.goesOn_of_reset`).  If before, none is started, the
old one leaves, and the machine stays at the start of its program until the next
reset (`App.engine_of_untimely_reset`).  Nothing else goes wrong
(`App.goesOn_reset_iff`), and this does (`App.exists_untimely_reset`).
-/

namespace TapeConsole

namespace Ticker

/-! ## The thread by itself -/

/-- The thread is going to tick the machine. -/
def GoesOn (t : Ticker) : Prop := t.stop = false ∧ (t.phase = .checking ∨ t.phase = .ticking)

/-- The thread has met a fault and is about to leave. -/
def Leaving (t : Ticker) : Prop := ∃ fault, t.phase = .reporting fault

/-- The step that the thread makes next is a tick that faults. -/
def Faults (t : Ticker) (m : Machine) : Prop :=
  t.phase = .ticking ∧ ∃ fault, m.engine.tick.outcome = .faulted fault

theorem goesOn_start : start.GoesOn := ⟨rfl, .inl rfl⟩

/-- A thread that nobody has asked to leave goes on, is about to leave or has left. -/
theorem goesOn_or_leaving_or_exited {t : Ticker} (hstop : t.stop = false) :
    t.GoesOn ∨ t.Leaving ∨ t.phase = .exited := by
  cases hphase : t.phase with
  | checking => exact .inl ⟨hstop, .inl hphase⟩
  | ticking => exact .inl ⟨hstop, .inr hphase⟩
  | reporting fault => exact .inr (.inl ⟨fault, hphase⟩)
  | exited => exact .inr (.inr rfl)

theorem Leaving.not_goesOn {t : Ticker} (h : t.Leaving) : ¬ t.GoesOn := by
  obtain ⟨fault, hphase⟩ := h
  simp [GoesOn, hphase]

theorem Leaving.isRunning {t : Ticker} (h : t.Leaving) : t.isRunning = true := by
  obtain ⟨fault, hphase⟩ := h
  simp [Ticker.isRunning, hphase]

theorem stop_step (t : Ticker) (m : Machine) : (t.step m).1.stop = t.stop := by
  unfold step
  split
  · rfl
  · dsimp only
    split <;> rfl
  · rfl
  · rfl

/-- A thread goes on after a step that is not a tick that faults. -/
theorem GoesOn.step {t : Ticker} {m : Machine} (h : t.GoesOn) (hfaults : ¬ t.Faults m) :
    (t.step m).1.GoesOn := by
  refine ⟨(stop_step t m).trans h.1, ?_⟩
  rcases h.2 with hphase | hphase
  · simp [Ticker.step, hphase, h.1]
  · rcases houtcome : m.engine.tick.outcome with _ | _ | _ | _ | fault
    case faulted => exact absurd ⟨hphase, fault, houtcome⟩ hfaults
    all_goals simp [Ticker.step, hphase, Machine.tick, houtcome]

/-- A thread that is about to leave makes one step more, and leaves the engine alone. -/
theorem Leaving.step {t : Ticker} (h : t.Leaving) (m : Machine) :
    (t.step m).1.phase = .exited ∧ (t.step m).2.engine = m.engine := by
  obtain ⟨fault, hphase⟩ := h
  simp [Ticker.step, hphase, Machine.note]

theorem step_of_exited {t : Ticker} (h : t.phase = .exited) (m : Machine) : t.step m = (t, m) := by
  simp [step, h]

/-- A thread that does not go on does nothing to the engine, and never goes on again. -/
theorem step_of_not_goesOn {t : Ticker} (hstop : t.stop = false) (h : ¬ t.GoesOn) (m : Machine) :
    ¬ (t.step m).1.GoesOn ∧ (t.step m).2.engine = m.engine := by
  rcases goesOn_or_leaving_or_exited hstop with hgoes | hleaving | hexited
  · exact absurd hgoes h
  · obtain ⟨hexited, hengine⟩ := hleaving.step m
    exact ⟨by simp [GoesOn, hexited], hengine⟩
  · rw [step_of_exited hexited]
    exact ⟨h, rfl⟩

end Ticker

namespace App

/-! ## Moves -/

/-- One atomic step of the tick thread or of the keyboard. -/
inductive Move where
  /-- The tick thread makes a step. -/
  | thread
  /-- The value of a key is offered. -/
  | offer (k : Key) (v : Int64)
  /-- The first step of a reset. -/
  | resetMachine
  /-- The second step of a reset. -/
  | reviveTicker
  deriving DecidableEq, Repr, Inhabited

/-- The tick thread makes a step. -/
def threadStep (a : App) : App :=
  { a with
    ticker := (a.ticker.step a.machine).1
    machine := (a.ticker.step a.machine).2 }

/-- Make a move. -/
def move (a : App) : Move → App
  | .thread => a.threadStep
  | .offer k v => a.offer k v
  | .resetMachine => a.resetMachine
  | .reviveTicker => a.reviveTicker

/-- Make some moves. -/
def moves (a : App) (ms : List Move) : App := ms.foldl move a

@[simp] theorem moves_nil (a : App) : a.moves [] = a := rfl

@[simp] theorem moves_cons (a : App) (m : Move) (ms : List Move) :
    a.moves (m :: ms) = (a.move m).moves ms := rfl

theorem moves_append (a : App) (first second : List Move) :
    a.moves (first ++ second) = (a.moves first).moves second :=
  List.foldl_append

/-- Along these moves no tick of the thread faults. -/
def Quiet (a : App) : List Move → Prop
  | [] => True
  | m :: ms => (m = .thread → ¬ a.ticker.Faults a.machine) ∧ (a.move m).Quiet ms

theorem Quiet.of_append {first second : List Move} :
    ∀ {a : App}, a.Quiet (first ++ second) → a.Quiet first ∧ (a.moves first).Quiet second := by
  induction first with
  | nil => exact fun h => ⟨trivial, h⟩
  | cons m ms ih => exact fun h => ⟨⟨h.1, (ih h.2).1⟩, (ih h.2).2⟩

/-! ## One move -/

theorem ticker_offer (a : App) (k : Key) (v : Int64) : (a.offer k v).ticker = a.ticker := by
  unfold offer
  dsimp only
  split <;> rfl

theorem machine_offer (a : App) (k : Key) (v : Int64) :
    (a.offer k v).machine = (a.machine.deliver v).1 := by
  unfold offer
  dsimp only
  split <;> rfl

theorem reviveTicker_of_isRunning {a : App} (h : a.ticker.isRunning = true) :
    a.reviveTicker = a := by
  simp [reviveTicker, h]

/-- Nobody asks the thread to leave. -/
theorem stop_move {a : App} (h : a.ticker.stop = false) (m : Move) :
    (a.move m).ticker.stop = false := by
  cases m with
  | thread => exact (a.ticker.stop_step a.machine).trans h
  | offer k v => exact (congrArg Ticker.stop (a.ticker_offer k v)).trans h
  | resetMachine => exact h
  | reviveTicker =>
      change a.reviveTicker.ticker.stop = false
      unfold reviveTicker
      split
      · exact h
      · rfl

/-- The second step of a reset leaves a thread that goes on, unless it finds one that is about to
leave. -/
theorem goesOn_reviveTicker_iff {a : App} (hstop : a.ticker.stop = false) :
    a.reviveTicker.ticker.GoesOn ↔ ¬ a.ticker.Leaving := by
  rcases Ticker.goesOn_or_leaving_or_exited hstop with hgoes | hleaving | hexited
  · have hrunning : a.ticker.isRunning = true := by
      rcases hgoes.2 with hphase | hphase <;> simp [Ticker.isRunning, hphase]
    rw [reviveTicker_of_isRunning hrunning]
    exact ⟨fun _ hleaving => hleaving.not_goesOn hgoes, fun _ => hgoes⟩
  · rw [reviveTicker_of_isRunning hleaving.isRunning]
    exact ⟨fun hgoes => absurd hgoes hleaving.not_goesOn, fun h => absurd hleaving h⟩
  · have hrevived : a.reviveTicker.ticker = .start := by
      simp [reviveTicker, Ticker.isRunning, hexited]
    rw [hrevived]
    exact ⟨fun _ => by simp [Ticker.Leaving, hexited], fun _ => Ticker.goesOn_start⟩

/-- A thread that goes on does so after a move, unless that is a tick that faults. -/
theorem goesOn_move {a : App} (h : a.ticker.GoesOn) {m : Move}
    (hquiet : m = .thread → ¬ a.ticker.Faults a.machine) : (a.move m).ticker.GoesOn := by
  cases m with
  | thread => exact h.step (hquiet rfl)
  | offer k v => exact (a.ticker_offer k v).symm ▸ h
  | resetMachine => exact h
  | reviveTicker => exact (goesOn_reviveTicker_iff h.1).2 fun hleaving => hleaving.not_goesOn h

/-- The engine is at the start of its program. -/
def AtStart (a : App) : Prop := a.machine.engine.reset.1 = a.machine.engine

theorem engine_resetMachine (a : App) :
    a.resetMachine.machine.engine = a.machine.engine.reset.1 :=
  Machine.engine_advance a.machine _ _

theorem AtStart.blocked {a : App} (h : a.AtStart) : a.machine.engine.blocked = false := by
  rw [← h]
  rfl

/-- Without a thread that goes on, only the second step of a reset brings an engine forward that is
at the start of its program. -/
theorem move_of_not_goesOn {a : App} (hstop : a.ticker.stop = false) (h : ¬ a.ticker.GoesOn)
    (hstart : a.AtStart) {m : Move} (hm : m ≠ .reviveTicker) :
    ¬ (a.move m).ticker.GoesOn ∧ (a.move m).machine.engine = a.machine.engine := by
  cases m with
  | thread => exact Ticker.step_of_not_goesOn hstop h a.machine
  | offer k v =>
      refine ⟨(a.ticker_offer k v).symm ▸ h, ?_⟩
      change (a.offer k v).machine.engine = a.machine.engine
      rw [machine_offer, Machine.engine_deliver]
      simp [Engine.deliver, hstart.blocked]
  | resetMachine => exact ⟨h, (a.engine_resetMachine).trans hstart⟩
  | reviveTicker => exact absurd rfl hm

/-- After a move that is no tick that faults the thread is about to leave only if it was and has
not made a step. -/
theorem leaving_move_iff {a : App} (hstop : a.ticker.stop = false) {m : Move}
    (hquiet : m = .thread → ¬ a.ticker.Faults a.machine) :
    (a.move m).ticker.Leaving ↔ a.ticker.Leaving ∧ m ≠ .thread := by
  cases m with
  | thread =>
      refine ⟨fun hleaving => ?_, fun hboth => absurd rfl hboth.2⟩
      -- whatever the thread was about to do, it is not about to leave now
      rcases Ticker.goesOn_or_leaving_or_exited hstop with hgoes | hbefore | hexited
      · exact absurd (hgoes.step (hquiet rfl)) hleaving.not_goesOn
      · obtain ⟨fault, hphase⟩ := hleaving
        exact absurd (hphase.symm.trans (hbefore.step a.machine).1) nofun
      · obtain ⟨fault, hphase⟩ := hleaving
        have hsame : a.threadStep.ticker.phase = .exited := by
          simp [threadStep, Ticker.step_of_exited hexited, hexited]
        exact absurd (hphase.symm.trans hsame) nofun
  | offer k v =>
      change (a.offer k v).ticker.Leaving ↔ _
      simp [ticker_offer]
  | resetMachine => exact ⟨fun h => ⟨h, nofun⟩, fun h => h.1⟩
  | reviveTicker =>
      change a.reviveTicker.ticker.Leaving ↔ _
      constructor
      · intro hleaving
        refine ⟨Classical.byContradiction fun hbefore => ?_, nofun⟩
        exact hleaving.not_goesOn ((goesOn_reviveTicker_iff hstop).2 hbefore)
      · intro h
        rw [reviveTicker_of_isRunning h.1.isRunning]
        exact h.1

/-! ## Any number of moves -/

theorem stop_moves : ∀ {ms : List Move} {a : App}, a.ticker.stop = false →
    (a.moves ms).ticker.stop = false := by
  intro ms
  induction ms with
  | nil => exact fun h => h
  | cons m ms ih => exact fun h => ih (stop_move h m)

theorem goesOn_moves : ∀ {ms : List Move} {a : App}, a.ticker.GoesOn → a.Quiet ms →
    (a.moves ms).ticker.GoesOn := by
  intro ms
  induction ms with
  | nil => exact fun h _ => h
  | cons m ms ih => exact fun h hquiet => ih (goesOn_move h hquiet.1) hquiet.2

theorem moves_of_not_goesOn : ∀ {ms : List Move} {a : App}, a.ticker.stop = false →
    ¬ a.ticker.GoesOn → a.AtStart → .reviveTicker ∉ ms →
      ¬ (a.moves ms).ticker.GoesOn ∧ (a.moves ms).machine.engine = a.machine.engine := by
  intro ms
  induction ms with
  | nil => exact fun _ h _ _ => ⟨h, rfl⟩
  | cons m ms ih =>
      intro a hstop h hstart hms
      rw [List.mem_cons, not_or] at hms
      obtain ⟨hgoes, hengine⟩ := move_of_not_goesOn hstop h hstart (Ne.symm hms.1)
      have hstart' : (a.move m).AtStart := by
        rw [AtStart, hengine]
        exact hstart
      obtain ⟨hgoes', hengine'⟩ := ih (stop_move hstop m) hgoes hstart' hms.2
      exact ⟨hgoes', hengine'.trans hengine⟩

theorem leaving_moves_iff : ∀ {ms : List Move} {a : App}, a.ticker.stop = false → a.Quiet ms →
    ((a.moves ms).ticker.Leaving ↔ a.ticker.Leaving ∧ .thread ∉ ms) := by
  intro ms
  induction ms with
  | nil => simp
  | cons m ms ih =>
      intro a hstop hquiet
      rw [moves_cons, ih (stop_move hstop m) hquiet.2, leaving_move_iff hstop hquiet.1,
        List.mem_cons, not_or, and_assoc]
      exact and_congr_right fun _ => and_congr_left fun _ => ne_comm

/-! ## A reset among other moves -/

/-- The application with a machine that has just been set up. -/
def ofProgram (p : Program) (sink : Sink) : App := { machine := { engine := .load p, sink } }

variable (p : Program) (sink : Sink) (before between after : List Move)

theorem stop_moves_ofProgram : ((ofProgram p sink).moves before).ticker.stop = false :=
  stop_moves rfl

/-- The second step of a reset, after no fault since the first, leaves a thread that goes on unless
the thread was about to leave at the first step and has not made that move since. -/
theorem goesOn_reset_iff
    (hquiet : ((ofProgram p sink).moves before).resetMachine.Quiet between) :
    (((ofProgram p sink).moves before).resetMachine.moves between).reviveTicker.ticker.GoesOn ↔
      ¬ (((ofProgram p sink).moves before).ticker.Leaving ∧ .thread ∉ between) := by
  have hstop : ((ofProgram p sink).moves before).resetMachine.ticker.stop = false :=
    stop_moves_ofProgram p sink before
  rw [goesOn_reviveTicker_iff (stop_moves hstop), leaving_moves_iff hstop hquiet]
  rfl

/-- After a reset, and until the next fault, there is a thread that goes on, unless the reset fell
between the last tick of the old thread and its end. -/
theorem goesOn_of_reset
    (hquiet : ((ofProgram p sink).moves before).resetMachine.Quiet
      (between ++ .reviveTicker :: after))
    (htimely : ¬ (((ofProgram p sink).moves before).ticker.Leaving ∧ .thread ∉ between)) :
    (((ofProgram p sink).moves before).resetMachine.moves
      (between ++ .reviveTicker :: after)).ticker.GoesOn := by
  obtain ⟨hbetween, hafter⟩ := hquiet.of_append
  rw [moves_append, moves_cons]
  exact goesOn_moves ((goesOn_reset_iff p sink before between hbetween).2 htimely) hafter.2

variable {p sink before}

/-- After a reset that fell between the last tick of the old thread and its end, no thread goes on
before the next reset, and the engine stays at the start of its program. -/
theorem engine_of_untimely_reset (hleaving : ((ofProgram p sink).moves before).ticker.Leaving)
    (hafter : .reviveTicker ∉ after) :
    ¬ (((ofProgram p sink).moves before).reset.moves after).ticker.GoesOn ∧
      (((ofProgram p sink).moves before).reset.moves after).machine.engine =
        ((ofProgram p sink).moves before).machine.engine.reset.1 := by
  have hstop := stop_moves_ofProgram p sink before
  revert hleaving hstop
  generalize (ofProgram p sink).moves before = a
  intro hleaving hstop
  have hrunning : a.resetMachine.ticker.isRunning = true := hleaving.isRunning
  have hreset : a.reset = { a.resetMachine with status := "Reset" } := by
    rw [reset, reviveTicker_of_isRunning hrunning]
  have hticker : a.reset.ticker = a.ticker := by
    rw [hreset]
    rfl
  have hengine : a.reset.machine.engine = a.machine.engine.reset.1 := by
    rw [hreset]
    exact a.engine_resetMachine
  have hstart : a.reset.AtStart := by
    rw [AtStart, hengine]
    rfl
  rw [← hengine]
  exact moves_of_not_goesOn (hticker.symm ▸ hstop) (hticker.symm ▸ hleaving.not_goesOn) hstart hafter

/-- There is such a reset: a bracket without partner is met after sixty ticks. -/
theorem exists_untimely_reset : ∃ (p : Program) (sink : Sink) (before : List Move),
    ∀ after : List Move, .reviveTicker ∉ after →
      ¬ (((ofProgram p sink).moves before).reset.moves after).ticker.GoesOn ∧
        (((ofProgram p sink).moves before).reset.moves after).machine.engine = .load p := by
  have hphase : ((ofProgram (.parse "[") .discard).moves (.replicate 120 .thread)).ticker.phase =
      .reporting ⟨0, '['⟩ := by
    decide +kernel
  have hengine : ((ofProgram (.parse "[") .discard).moves
      (.replicate 120 .thread)).machine.engine.reset.1 = .load (.parse "[") := by
    decide +kernel
  refine ⟨.parse "[", .discard, .replicate 120 .thread, fun after hafter => ?_⟩
  rw [← hengine]
  exact engine_of_untimely_reset after ⟨_, hphase⟩ hafter

end App

end TapeConsole
