import TapeConsole.Proofs.Dispatch
set_option autoImplicit false

/-!
# What always holds of an engine

`Engine.Invariant` lists what can be relied on between any two calls: where the
pointers are, that a run is not halted, blocked and faulted at the same time, and
what it is at when it is one of them.  The clauses need each other.  A value is
written only to an engine that is blocked, and that one has not faulted, so the
cell at which a bracket had to jump stays as it was.

An engine at an instruction of its program is described by one lemma,
`Engine.Invariant.of_inside`, and nearly every call leads to such an engine.
-/

namespace TapeConsole

theorem Tape.pointer_lt_length_cells (t : Tape) : t.pointer < t.cells.length := by
  rw [length_cells]
  exact t.pointer_lt_length

namespace Engine

/-- What holds of an engine between any two calls. -/
structure Invariant (e : Engine) : Prop where
  /-- The pointer of the tape is the index of a cell, so there is one. -/
  pointer_lt : e.tape.pointer < e.tape.cells.length
  /-- The instruction pointer is inside the program or just past its end. -/
  ip_le : ∀ {position : Nat}, e.ip = some position → position ≤ e.program.length
  /-- The program has ended exactly if the instruction pointer is past its end. -/
  halted_iff : e.halted = true ↔ e.ip = some e.program.length
  /-- The engine has halted, is blocked or has faulted, but no two of these at once. -/
  at_most_one : e.halted.toNat + e.blocked.toNat + e.fault.isSome.toNat ≤ 1
  /-- A blocked engine is at an input instruction. -/
  input_of_blocked : e.blocked = true → e.instruction? = some .input
  /-- An engine with a fault is at the bracket that the fault names, which has to jump. -/
  bracket_of_fault : ∀ {fault : Fault}, e.fault = some fault → e.ip = some fault.position ∧
    ∃ i, e.instruction? = some i ∧ fault.bracket = i.toChar ∧ i.MustJump e.tape.read
  /-- Before the first instruction nothing has changed. -/
  fresh_of_ip : e.ip = none →
    e.tape = .blank ∧ e.output = "" ∧ e.dispatched = 0 ∧ e.clock.speed = 1.0

theorem halted_of_inside {e : Engine} {position : Nat} (hip : e.ip = some position)
    (hlt : position < e.program.length) : e.halted = false := by
  unfold halted
  rw [hip]
  exact decide_eq_false (Nat.not_le.mpr hlt)

theorem instruction?_of_ip {e : Engine} {position : Nat} (hip : e.ip = some position) :
    e.instruction? = e.program.get? position := by
  unfold instruction?
  rw [hip]
  rfl

namespace Invariant

/-- An engine that has not begun. -/
theorem of_start (p : Program) (memo : JumpMemo) :
    Invariant { program := p, memo := memo } where
  pointer_lt := Tape.pointer_lt_length_cells _
  ip_le := by intro position h; cases h
  halted_iff := by
    constructor
    · intro h; cases h
    · intro h; cases h
  at_most_one := Nat.zero_le 1
  input_of_blocked := by intro h; cases h
  bracket_of_fault := by intro fault h; cases h
  fresh_of_ip := fun _ => ⟨rfl, rfl, rfl, rfl⟩

/-- An engine at an instruction of its program, which is blocked only by an input instruction
and has faulted only at this bracket. -/
theorem of_inside {e : Engine} {position : Nat} {i : Instruction} (hip : e.ip = some position)
    (hget : e.program.get? position = some i)
    (hblocked : e.blocked = true → i = .input ∧ e.fault = none)
    (hfault : ∀ fault, e.fault = some fault →
      fault = ⟨position, i.toChar⟩ ∧ i.MustJump e.tape.read) : e.Invariant := by
  have hlt : position < e.program.length := Program.lt_length_of_get? hget
  have hhalted : e.halted = false := halted_of_inside hip hlt
  have hinstruction : e.instruction? = some i := by rw [instruction?_of_ip hip, hget]
  refine ⟨Tape.pointer_lt_length_cells _, ?_, ?_, ?_, ?_, ?_, ?_⟩
  · intro position' h
    obtain rfl := Option.some.inj (hip.symm.trans h)
    exact Nat.le_of_lt hlt
  · rw [hhalted, hip]
    constructor
    · intro h; cases h
    · intro h
      exact absurd (Option.some.inj h) (Nat.ne_of_lt hlt)
  · rw [hhalted]
    cases hwait : e.blocked with
    | false => simpa using Bool.toNat_le e.fault.isSome
    | true =>
        rw [(hblocked hwait).2]
        decide
  · intro h
    rw [hinstruction, (hblocked h).1]
  · intro fault h
    obtain ⟨rfl, hjump⟩ := hfault fault h
    exact ⟨hip, i, hinstruction, rfl, hjump⟩
  · intro h
    cases hip.symm.trans h

/-- An engine that goes on: it is at an instruction, waits for nothing and has no fault. -/
theorem of_going {e : Engine} {position : Nat} (hip : e.ip = some position)
    (hlt : position < e.program.length) (hblocked : e.blocked = false) (hfault : e.fault = none) :
    e.Invariant := by
  obtain ⟨i, hget⟩ := Program.exists_get?_of_lt_length hlt
  refine of_inside hip hget ?_ ?_
  · intro h
    cases hblocked.symm.trans h
  · intro fault h
    cases hfault.symm.trans h

/-- The count of ticks does not matter. -/
theorem counted {e : Engine} (h : e.Invariant) : e.counted.Invariant :=
  ⟨h.pointer_lt, h.ip_le, h.halted_iff, h.at_most_one, h.input_of_blocked, h.bracket_of_fault,
    h.fresh_of_ip⟩

theorem fault_of_blocked {e : Engine} (h : e.Invariant) (hblocked : e.blocked = true) :
    e.fault = none := by
  have hone := h.at_most_one
  cases hfault : e.fault with
  | none => rfl
  | some fault =>
      rw [hblocked, hfault] at hone
      simp only [Bool.toNat_true, Option.isSome_some] at hone
      omega

theorem halted_of_blocked {e : Engine} (h : e.Invariant) (hblocked : e.blocked = true) :
    e.halted = false := by
  have hone := h.at_most_one
  cases hhalted : e.halted with
  | false => rfl
  | true =>
      rw [hblocked, hhalted] at hone
      simp only [Bool.toNat_true] at hone
      omega

/-- A blocked engine is at an input instruction of its program. -/
theorem exists_input_of_blocked {e : Engine} (h : e.Invariant) (hblocked : e.blocked = true) :
    ∃ position, e.ip = some position ∧ e.program.get? position = some .input := by
  have hinput := h.input_of_blocked hblocked
  cases hip : e.ip with
  | none =>
      unfold instruction? at hinput
      rw [hip] at hinput
      cases hinput
  | some position =>
      rw [instruction?_of_ip hip] at hinput
      exact ⟨position, rfl, hinput⟩

theorem lt_length_of_not_halted {e : Engine} (h : e.Invariant) {position : Nat}
    (hip : e.ip = some position) (hhalted : e.halted = false) : position < e.program.length := by
  refine Nat.lt_of_le_of_ne (h.ip_le hip) ?_
  rintro rfl
  cases hhalted.symm.trans (h.halted_iff.mpr hip)

/-- An engine that is ready has its next position inside the program or just past its end. -/
theorem nextPosition_le {e : Engine} (h : e.Invariant) (hready : e.Ready) :
    e.nextPosition ≤ e.program.length := by
  unfold nextPosition
  cases hip : e.ip with
  | none => exact Nat.zero_le _
  | some position => exact h.lt_length_of_not_halted hip hready.halted_eq

/-! ## Every call keeps the invariant -/

theorem deliver {e : Engine} (h : e.Invariant) (v : Int64) : (e.deliver v).1.Invariant := by
  cases hblocked : e.blocked with
  | false =>
      rw [deliver_of_not_blocked hblocked]
      exact h
  | true =>
      rw [deliver_of_blocked hblocked]
      obtain ⟨position, hip, hget⟩ := h.exists_input_of_blocked hblocked
      exact of_going hip (Program.lt_length_of_get? hget) rfl (h.fault_of_blocked hblocked)

/-- Past the last instruction the program ends. -/
theorem past {e : Engine} (h : e.Invariant) (hready : e.Ready)
    (hget : e.program.get? e.nextPosition = none) :
    ({ e.still with ip := some e.nextPosition } : Engine).Invariant := by
  have hlength : e.nextPosition = e.program.length := by
    have hle := h.nextPosition_le hready
    rw [Program.get?_eq_getElem?, List.getElem?_eq_none_iff, Program.length_toList] at hget
    omega
  have hhalted : ({ e.still with ip := some e.nextPosition } : Engine).halted = true := by
    unfold halted
    exact decide_eq_true (Nat.le_of_eq hlength.symm)
  refine ⟨Tape.pointer_lt_length_cells _, ?_, ?_, ?_, ?_, ?_, ?_⟩
  · intro position hip
    obtain rfl := Option.some.inj hip
    exact Nat.le_of_eq hlength
  · rw [hhalted]
    exact ⟨fun _ => congrArg some hlength, fun _ => rfl⟩
  · have hblocked : ({ e.still with ip := some e.nextPosition } : Engine).blocked = false :=
      hready.blocked_eq
    have hfault : ({ e.still with ip := some e.nextPosition } : Engine).fault = none :=
      hready.fault_eq
    rw [hhalted, hblocked, hfault]
    decide
  · intro hblocked
    cases hready.blocked_eq.symm.trans hblocked
  · intro fault hfault
    cases hready.fault_eq.symm.trans hfault
  · intro hip
    cases hip

/-- Carrying out an instruction leads to an engine of the invariant. -/
theorem dispatches {e : Engine} (hsound : e.memo.Sound e.program) {i : Instruction}
    {position : Nat} (hdispatches : e.Dispatches i position) : e.tick.engine.Invariant := by
  obtain ⟨hready, -, rfl, hget⟩ := dispatches_iff.mp hdispatches
  have hlt : e.nextPosition < e.program.length := Program.lt_length_of_get? hget
  rw [hdispatches.tick_eq]
  cases performs (e := e.begun) hsound hget with
  | stays _ _ _ hperform =>
      rw [hperform]
      exact of_going rfl hlt hready.blocked_eq hready.fault_eq
  | writes _ _ hperform =>
      rw [hperform]
      exact of_going rfl hlt hready.blocked_eq hready.fault_eq
  | waits hi _ hperform =>
      rw [hperform]
      refine of_inside rfl hget ?_ ?_
      · intro _
        exact ⟨hi, hready.fault_eq⟩
      · intro fault hfault
        cases hready.fault_eq.symm.trans hfault
  | jumps target _ hpaired hperform =>
      rw [hperform]
      exact of_going rfl hpaired.symm.lt_length hready.blocked_eq hready.fault_eq
  | fails hjump _ hperform =>
      rw [hperform]
      refine of_inside rfl hget ?_ ?_
      · intro hblocked
        cases hready.blocked_eq.symm.trans hblocked
      · intro fault hfault
        obtain rfl := Option.some.inj hfault
        exact ⟨rfl, hjump⟩

theorem tick {e : Engine} (h : e.Invariant) (hsound : e.memo.Sound e.program) :
    e.tick.engine.Invariant := by
  cases e.tick_event with
  | faulted _ _ htick =>
      rw [htick]
      exact h
  | ended _ _ htick =>
      rw [htick]
      exact h
  | waiting _ _ _ htick =>
      rw [htick]
      exact h.counted
  | early _ htick =>
      rw [htick]
      exact h.counted
  | past hready hget htick =>
      rw [htick]
      exact h.past hready hget
  | due i position hdispatches => exact dispatches hsound hdispatches

/-- One call keeps the invariant. -/
theorem call {e : Engine} (h : e.Invariant) (hsound : e.memo.Sound e.program) (c : Call) :
    (e.call c).engine.Invariant := by
  cases c with
  | tick => exact h.tick hsound
  | deliver v => exact h.deliver v
  | reset => exact of_start _ _

end Invariant

/-- The invariant holds after every history. -/
theorem invariant_after (p : Program) (calls : List Call) : ((load p).after calls).Invariant := by
  have hrun := after_induction (P := fun e => e.Invariant ∧ e.memo.Sound e.program)
    (fun e c h => ⟨h.1.call h.2 c, memo_sound_call h.2 c⟩)
    calls (load p) ⟨Invariant.of_start p _, JumpMemo.sound_blank p⟩
  exact hrun.1

/-! ## What a view shows -/

/-- An engine is marked in its program while it is at an instruction, and only then. -/
theorem Invariant.highlight_view_eq_some_iff {e : Engine} (h : e.Invariant) {position : Nat} :
    e.view.highlight = some position ↔ e.ip = some position ∧ e.halted = false := by
  have hview : e.view.highlight = e.ip.filter (· < e.program.length) := rfl
  rw [hview, Option.filter_eq_some_iff]
  constructor
  · rintro ⟨hip, hlt⟩
    exact ⟨hip, halted_of_inside hip (of_decide_eq_true hlt)⟩
  · rintro ⟨hip, hhalted⟩
    exact ⟨hip, decide_eq_true (h.lt_length_of_not_halted hip hhalted)⟩

end Engine

/-- The invariant of an engine holds after every history of calls.  Hence every view taken
between two calls shows a cell at its pointer, and marks an instruction of the program whenever it
marks one. -/
theorem invariant_and_view_after (p : Program) (calls : List Call) :
    let e := (Engine.load p).after calls
    e.program = p ∧ e.Invariant ∧ e.view.cells[e.view.pointer]? = some e.tape.read ∧
      (∀ position, e.view.highlight = some position ↔ e.ip = some position ∧ e.halted = false) ∧
      ∀ position, e.view.highlight = some position → position < p.length := by
  intro e
  have hprogram : e.program = p := Engine.program_after (Engine.load p) calls
  have hinvariant : e.Invariant := Engine.invariant_after p calls
  refine ⟨hprogram, hinvariant, e.tape.getElem?_pointer_cells, ?_, ?_⟩
  · intro position
    exact hinvariant.highlight_view_eq_some_iff
  · intro position h
    obtain ⟨hip, hhalted⟩ := hinvariant.highlight_view_eq_some_iff.mp h
    rw [← hprogram]
    exact hinvariant.lt_length_of_not_halted hip hhalted

/-- After its first instruction, an input, the engine is blocked at it and marks it. -/
theorem invariant_and_view_after_input :
    let e := (Engine.load (.ofList [.input])).after (List.replicate 60 .tick)
    e.view.highlight = some 0 ∧ e.instruction? = some .input ∧ e.fault = none ∧
      0 < (Program.ofList [.input]).length := by
  intro e
  obtain ⟨-, hinvariant, -, -, hinside⟩ :=
    invariant_and_view_after (.ofList [.input]) (List.replicate 60 .tick)
  have hmark : e.view.highlight = some 0 := by decide +kernel
  have hblocked : e.blocked = true := by decide +kernel
  exact ⟨hmark, hinvariant.input_of_blocked hblocked, hinvariant.fault_of_blocked hblocked,
    hinside 0 hmark⟩

end TapeConsole
