import TapeConsole.Proofs.FairRun
import TapeConsole.Proofs.FlatRun
set_option autoImplicit false

/-!
# Counting loops

A loop whose body takes one from the cell it is entered with runs its body once for
each unit of that cell.  The cell is a 64-bit word, so a negative value counts down
through the wrap to the largest one: minus one takes 2^64 - 1 turns.

`Program.CountsDown` says what a body has to do, for every tape and all values that may
come; what else it does is left open.  It speaks of one history only, and
`Engine.Fair.exists_alike` carries it over to every fair schedule.  While the body runs
the engine stays between the two brackets (`Engine.Inside`), because brackets in the
body have their partners there.  One turn of the loop is
`Engine.Counting.exists_turn`, and `Engine.Counting.exists_leavesAt` puts the turns
together.  For a body without brackets and values the condition can be read off what
it does to a tape (`Program.countsDown_of_straight`).
-/

namespace TapeConsole

/-! ## Moves and units -/

/-- How far to the right the pointer is moved by instructions that are carried out. -/
def drift (trail : List (Nat × Instruction)) : Int :=
  ((trail.map Prod.snd).count .right : Int) - (trail.map Prod.snd).count .left

theorem drift_append (first second : List (Nat × Instruction)) :
    drift (first ++ second) = drift first + drift second := by
  unfold drift
  rw [List.map_append, List.count_append, List.count_append]
  omega

/-- The value of a cell as a count: a negative value counts from 2^64 downwards. -/
def units (v : Int64) : Nat := (v.toInt % 0x10000000000000000).toNat

theorem units_sub_one {v : Int64} (h : v ≠ 0) : units v = units (v - 1) + 1 := by
  have hne : v.toInt ≠ 0 := fun hzero => h (Int64.toInt_inj.mp hzero)
  have hlow := v.le_toInt
  have hhigh := v.toInt_lt
  have hsub : (v - 1).toInt = (v.toInt - 1).bmod 0x10000000000000000 := Int64.toInt_sub v 1
  unfold units
  rw [hsub, Int.bmod_def]
  omega

/-! ## The two brackets -/

namespace Engine

/-- A bracket changes nothing that decides but the place in the program. -/
theorem bare_tick_bracket {e : Engine} {d : Direction} {position target : Nat}
    (h : e.Dispatches d.bracket position) (hsound : e.memo.Sound e.program)
    (hpaired : e.program.Paired position target) :
    e.tick.engine.bare =
      ({ e with ip := some (if d.jumps e.tape.read then target else position) } : Engine).bare := by
  obtain ⟨-, -, hnext, hget⟩ := dispatches_iff.mp h
  have hbegun : e.begun.bare = ({ e with ip := some position } : Engine).bare := by
    rw [← hnext]
    rfl
  rw [h.tick_eq]
  cases hjumps : d.jumps e.tape.read with
  | false =>
      rw [perform_of_stays (e := e.begun) hjumps]
      exact hbegun
  | true =>
      have hpartner : e.begun.program.partner position d = .ok target :=
        (Program.partner_eq_ok_iff hget).mpr hpaired
      rw [perform_of_jumps (e := e.begun) hjumps, jump_eq (e := e.begun) hsound hget, hpartner]
      rfl

/-- Both brackets of a loop lead to the same place: to the end of the loop if the cell is zero, to
the start of the body otherwise. -/
theorem tick_bracket {e : Engine} {i j : Nat} (hsound : e.memo.Sound e.program)
    (hjoins : e.program.Joins i j) (h : e.Dispatches .loopStart i ∨ e.Dispatches .loopEnd j) :
    e.tick.engine.Ready ∧ e.tick.engine.ip = some (if e.tape.read = 0 then j else i) ∧
      e.tick.engine.tape = e.tape := by
  have hbare : e.tick.engine.bare =
      ({ e with ip := some (if e.tape.read = 0 then j else i) } : Engine).bare := by
    rcases h with h | h
    · rw [bare_tick_bracket (d := .forward) h hsound (.inl hjoins)]
      simp [Direction.jumps]
    · rw [bare_tick_bracket (d := .backward) h hsound (.inr hjoins)]
      simp [Direction.jumps]
  obtain ⟨hprogram, htape, hip, hblocked, hfault⟩ := eq_of_bare hbare
  have hready : e.Ready := h.elim Dispatches.ready Dispatches.ready
  have hplace : (if e.tape.read = 0 then j else i) < e.program.length := by
    have hend := Program.lt_length_of_get? hjoins.end_eq
    have hlt := hjoins.lt
    split <;> omega
  refine ⟨⟨hfault.trans hready.fault_eq, ?_, hblocked.trans hready.blocked_eq⟩, hip, htape⟩
  rw [halted_of_inside hip (hprogram ▸ hplace)]

/-- From a zero cell no instruction leads back. -/
theorem nextPosition_le_ip_dispatch {e : Engine} (hsound : e.memo.Sound e.program)
    (hread : e.tape.read = 0) :
    ∃ k, e.dispatch.engine.ip = some k ∧ e.nextPosition ≤ k := by
  cases hget : e.program.get? e.nextPosition with
  | none =>
      rw [dispatch_of_none hget]
      exact ⟨e.nextPosition, rfl, Nat.le_refl _⟩
  | some x =>
      rw [dispatch_of_some hget]
      cases performs (e := e.started) hsound hget with
      | stays _ _ _ hperform => exact ⟨_, by rw [hperform]; rfl, Nat.le_refl _⟩
      | writes _ _ hperform => exact ⟨_, by rw [hperform]; rfl, Nat.le_refl _⟩
      | waits _ _ hperform => exact ⟨_, by rw [hperform]; rfl, Nat.le_refl _⟩
      | fails _ _ hperform => exact ⟨_, by rw [hperform]; rfl, Nat.le_refl _⟩
      | jumps target hjump hpaired hperform =>
          refine ⟨target, by rw [hperform], ?_⟩
          rcases hjump with ⟨rfl, -⟩ | ⟨-, hnonzero⟩
          · rcases hpaired with hjoins | hjoins
            · exact Nat.le_of_lt hjoins.lt
            · cases hget.symm.trans hjoins.end_eq
          · exact absurd hread hnonzero

/-! ## Between the brackets -/

/-- The last instruction was the start bracket at `i` or one between it and `j`. -/
def Inside (e : Engine) (i j : Nat) : Prop := ∃ k, e.ip = some k ∧ i ≤ k ∧ k < j

/-- A call keeps the engine between the brackets unless it carries out the end bracket. -/
theorem Inside.call {e : Engine} {i j : Nat} (h : e.Inside i j) (hsound : e.memo.Sound e.program)
    (hjoins : e.program.Joins i j) {c : Call} (hreset : c ≠ .reset)
    (htrail : (j, .loopEnd) ∉ (e.call c).signals.flatMap Signal.dispatched) :
    (e.call c).engine.Inside i j := by
  obtain ⟨k, hip, hlow, hhigh⟩ := h
  cases e.call_event hreset with
  | idle hbare _ _ => exact ⟨k, (eq_of_bare hbare).2.2.1.trans hip, hlow, hhigh⟩
  | value v hcall hblocked =>
      refine ⟨k, ?_, hlow, hhigh⟩
      rw [hcall, Engine.call, deliver_of_blocked hblocked]
      exact hip
  | act hcall hready hdue =>
      have hnext : e.nextPosition = k + 1 := by
        unfold nextPosition
        rw [hip]
      subst hcall
      simp only [Engine.call, tick_of_due hready hdue] at htrail ⊢
      rw [dispatched_dispatch, nextPosition_still, program_still, hnext] at htrail
      have hlt : k + 1 < j := by
        refine Nat.lt_of_le_of_ne hhigh fun heq => htrail ?_
        rw [heq, hjoins.end_eq]
        exact List.mem_singleton_self _
      cases hget : e.still.program.get? e.still.nextPosition with
      | none =>
          have hinside := Program.lt_length_of_get? hjoins.end_eq
          rw [nextPosition_still, program_still, hnext, Program.get?_eq_getElem?,
            List.getElem?_eq_none_iff, Program.length_toList] at hget
          omega
      | some x =>
          rw [dispatch_of_some hget]
          have hip' : e.still.started.ip = some (k + 1) := congrArg some hnext
          have hstays : ∀ e' : Engine, e'.ip = e.still.started.ip → e'.Inside i j :=
            fun e' h => ⟨k + 1, h.trans hip', by omega, hlt⟩
          cases performs (e := e.still.started) hsound hget with
          | stays _ _ _ hperform => rw [hperform]; exact hstays _ rfl
          | writes _ _ hperform => rw [hperform]; exact hstays _ rfl
          | waits _ _ hperform => rw [hperform]; exact hstays _ rfl
          | fails _ _ hperform => rw [hperform]; exact hstays _ rfl
          | jumps target _ hpaired hperform =>
              rw [nextPosition_still, hnext] at hpaired
              obtain ⟨hlow', hhigh'⟩ := hjoins.paired_between (by omega) hlt hpaired
              rw [hperform]
              exact ⟨target, rfl, by omega, hhigh'⟩

/-- The engine stays between the brackets until the end bracket is carried out. -/
theorem Inside.after {i j : Nat} (calls : List Call) :
    ∀ {e : Engine}, e.Inside i j → e.memo.Sound e.program → e.program.Joins i j →
      Call.reset ∉ calls → (j, .loopEnd) ∉ e.trail calls → (e.after calls).Inside i j := by
  induction calls with
  | nil => intro e h _ _ _ _; exact h
  | cons c rest ih =>
      intro e h hsound hjoins hreset htrail
      rw [trail_cons, List.mem_append, not_or] at htrail
      have hc : c ≠ .reset := fun h => hreset (h ▸ List.mem_cons_self)
      have hrest : Call.reset ∉ rest := fun h => hreset (List.mem_cons_of_mem c h)
      exact ih (h.call hsound hjoins hc htrail.1) (memo_sound_call hsound c)
        ((program_call e c).symm ▸ hjoins) hrest htrail.2

/-! ## Leaving a loop -/

/-- Under the schedule the engine stays at the loop from `i` to `j` for `n` calls, and the next
call takes it past the loop. -/
structure LeavesAt (e : Engine) (σ : Stream' Call) (i j n : Nat) : Prop where
  /-- The instruction pointer is at the loop so long. -/
  within : ∀ m, m ≤ n → ∃ k, (e.after (σ.take m)).ip = some k ∧ i ≤ k ∧ k ≤ j
  /-- Then it is past the loop. -/
  past : ∃ k, (e.after (σ.take (n + 1))).ip = some k ∧ j < k
  /-- The cell is zero when the loop is left. -/
  read_eq : (e.after (σ.take n)).tape.read = 0
  /-- It is the cell at which the loop was begun. -/
  drift_eq : drift (e.trail (σ.take n)) = 0

/-- What is done before the loop is left can be split. -/
theorem LeavesAt.of_drop {e : Engine} {σ : Stream' Call} {i j m n : Nat}
    (h : (e.after (σ.take m)).LeavesAt (σ.drop m) i j n)
    (hwithin : ∀ k, k < m → ∃ position, (e.after (σ.take k)).ip = some position ∧
      i ≤ position ∧ position ≤ j)
    (hdrift : drift (e.trail (σ.take m)) = 0) : e.LeavesAt σ i j (m + n) where
  within := by
    intro k hk
    by_cases hfirst : k < m
    · exact hwithin k hfirst
    · obtain ⟨d, rfl⟩ := Nat.exists_eq_add_of_le (Nat.le_of_not_lt hfirst)
      rw [Stream'.take_add, after_append]
      exact h.within d (by omega)
  past := by
    rw [Nat.add_assoc, Stream'.take_add, after_append]
    exact h.past
  read_eq := by
    rw [Stream'.take_add, after_append]
    exact h.read_eq
  drift_eq := by
    rw [Stream'.take_add, trail_append, drift_append, hdrift, h.drift_eq]
    rfl

/-- At the end bracket with a zero cell the next instruction leads past the loop. -/
theorem exists_leavesAt_of_zero {e : Engine} {σ : Stream' Call} {i j : Nat}
    (hsound : e.memo.Sound e.program) (hfair : e.Fair σ) (hready : e.Ready) (hij : i ≤ j)
    (hip : e.ip = some j) (hread : e.tape.read = 0) :
    ∃ n, e.LeavesAt σ i j n ∧ e.trail (σ.take n) = [] := by
  obtain ⟨n, hidles, hget, hdue⟩ := hfair.exists_act hready
  have hbare := hidles.bare_eq n (Nat.le_refl n)
  have hafter := (hidles.take_succ hget).1
  refine ⟨n, ⟨?_, ?_, ?_, ?_⟩, hidles.trail_eq⟩
  · intro m hm
    exact ⟨j, (eq_of_bare (hidles.bare_eq m hm)).2.2.1.trans hip, hij, Nat.le_refl j⟩
  · have hnext : (e.after (σ.take n)).nextPosition = j + 1 := by
      rw [nextPosition_of_bare hbare, nextPosition, hip]
    obtain ⟨k, hk, hle⟩ := nextPosition_le_ip_dispatch (e := (e.after (σ.take n)).still)
      (sound_after hsound (σ.take n)) ((eq_of_bare hbare).2.1.symm ▸ hread)
    rw [nextPosition_still, hnext] at hle
    refine ⟨k, ?_, hle⟩
    rw [hafter, call, tick_of_due (hready.of_bare hbare.symm) hdue]
    exact hk
  · rw [(eq_of_bare hbare).2.1, hread]
  · rw [hidles.trail_eq]
    rfl

/-! ## Turns of a loop -/

/-- An engine that has just entered a loop at `i` with a tape. -/
def entering (p : Program) (i : Nat) (t : Tape) : Engine := { load p with tape := t, ip := some i }

end Engine

/-- The body of the loop from `i` to `j` counts down: entered with any tape whose cell is not zero,
and whatever values come, it leads to the end bracket, with as many moves to the right as to the
left and one less in the cell. -/
def Program.CountsDown (p : Program) (i j : Nat) : Prop :=
  ∀ (t : Tape) (inputs : Stream' Int64), t.read ≠ 0 →
    let e := Engine.entering p i t
    ∃ calls : List Call, Call.reset ∉ calls ∧ (∃ k, e.consumed calls = inputs.take k) ∧
      (e.after calls).Dispatches .loopEnd j ∧ (j, .loopEnd) ∉ e.trail calls ∧
      drift (e.trail calls) = 0 ∧ (e.after calls).tape.read = t.read - 1

namespace Engine

/-- The engine is at the start of the body of a counting loop, with a cell that is not zero, and
the schedule keeps it going. -/
structure Counting (e : Engine) (σ : Stream' Call) (i j : Nat) : Prop where
  joins : e.program.Joins i j
  counts : e.program.CountsDown i j
  sound : e.memo.Sound e.program
  fair : e.Fair σ
  ready : e.Ready
  ip_eq : e.ip = some i
  read_ne : e.tape.read ≠ 0

namespace Counting

variable {e : Engine} {σ : Stream' Call} {i j : Nat}

theorem bare_entering (h : e.Counting σ i j) : (entering e.program i e.tape).bare = e.bare := by
  unfold bare
  rw [h.ip_eq, h.ready.blocked_eq, h.ready.fault_eq]
  rfl

/-- The body comes to its end: under every fair schedule a tick comes that carries out the end
bracket, for the first time, with one less in the cell. -/
theorem exists_end (h : e.Counting σ i j) :
    ∃ m, (∀ k, k ≤ m → (e.after (σ.take k)).Inside i j) ∧
      (j, .loopEnd) ∉ e.trail (σ.take m) ∧ drift (e.trail (σ.take m)) = 0 ∧
      σ.get m = .tick ∧ (e.after (σ.take m)).Dispatches .loopEnd j ∧
      (e.after (σ.take m)).tape.read = e.tape.read - 1 := by
  obtain ⟨inputs, hvalues⟩ := e.exists_inputs σ
  obtain ⟨calls, hreset, hconsumed, hdispatches, hnot, hdrift, hlast⟩ :=
    h.counts e.tape inputs h.read_ne
  obtain ⟨n, hsame, htrail⟩ := Fair.exists_alike calls (JumpMemo.sound_blank e.program) h.sound
    h.bare_entering h.fair hreset hconsumed hvalues
  obtain ⟨-, -, hnext, hbracket⟩ := dispatches_iff.mp hdispatches
  rw [nextPosition_of_bare hsame] at hnext
  rw [(eq_of_bare hsame).1] at hbracket
  -- After the body the engine waits for the clock until the end bracket is due.
  obtain ⟨m, hidles, hget, hend⟩ := (h.fair.drop n).exists_dispatches
    (hdispatches.ready.of_bare hsame) hnext hbracket
  rw [Stream'.get_drop] at hget
  rw [← after_append, ← Stream'.take_add] at hend
  have htape : (e.after (σ.take (n + m))).tape = (e.after (σ.take n)).tape := by
    rw [Stream'.take_add, after_append]
    exact (eq_of_bare (hidles.bare_eq m (Nat.le_refl m))).2.1
  have hwhole : e.trail (σ.take (n + m)) = (entering e.program i e.tape).trail calls := by
    rw [Stream'.take_add, trail_append, hidles.trail_eq, List.append_nil, htrail]
  refine ⟨n + m, ?_, hwhole ▸ hnot, hwhole ▸ hdrift, hget, hend, ?_⟩
  · intro k hk
    obtain ⟨d, hd⟩ := Nat.exists_eq_add_of_le hk
    rw [← hwhole, hd, Stream'.take_add, trail_append] at hnot
    exact Inside.after (σ.take k) ⟨i, h.ip_eq, Nat.le_refl i, h.joins.lt⟩ h.sound h.joins
      (h.fair.reset_not_mem_take k) fun hmem => hnot (List.mem_append_left _ hmem)
  · rw [htape, ← (eq_of_bare hsame).2.1, hlast]

/-- One turn of a counting loop: the end bracket is carried out once, and then the engine is at the
start of the body again, or at the end of the loop if the cell is zero. -/
theorem exists_turn (h : e.Counting σ i j) :
    ∃ m, (∀ k, k < m → (e.after (σ.take k)).Inside i j) ∧
      (e.trail (σ.take m)).count (j, .loopEnd) = 1 ∧ drift (e.trail (σ.take m)) = 0 ∧
      (e.after (σ.take m)).Ready ∧
      (e.after (σ.take m)).ip = some (if e.tape.read - 1 = 0 then j else i) ∧
      (e.after (σ.take m)).tape.read = e.tape.read - 1 := by
  obtain ⟨m, hinside, hnot, hdrift, hget, hdispatches, hlast⟩ := h.exists_end
  have hprogram : (e.after (σ.take m)).program = e.program := program_after e (σ.take m)
  obtain ⟨hready, hip, htape⟩ := tick_bracket (sound_after h.sound (σ.take m))
    (hprogram.symm ▸ h.joins) (.inr hdispatches)
  have hafter : e.after (σ.take (m + 1)) = (e.after (σ.take m)).tick.engine := by
    rw [Stream'.take_succ', hget, after_append]
    rfl
  have htrail : e.trail (σ.take (m + 1)) = e.trail (σ.take m) ++ [(j, .loopEnd)] := by
    rw [Stream'.take_succ', hget, trail_append, trail_cons, call, hdispatches.dispatched_eq]
    rfl
  refine ⟨m + 1, fun k hk => hinside k (Nat.le_of_lt_succ hk), ?_, ?_, ?_, ?_, ?_⟩
  · rw [htrail, List.count_append, List.count_eq_zero.mpr hnot, List.count_singleton_self]
  · rw [htrail, drift_append, hdrift]
    rfl
  · rw [hafter]
    exact hready
  · rw [hafter, hip, hlast]
  · rw [hafter, htape, hlast]

/-- A counting loop is left after as many turns as the cell has units.  The induction is on that
number. -/
theorem exists_leavesAt (h : e.Counting σ i j) :
    ∃ n, e.LeavesAt σ i j n ∧
      (e.trail (σ.take n)).count (j, .loopEnd) = units e.tape.read := by
  induction hunits : units e.tape.read generalizing e σ with
  | zero =>
      rw [units_sub_one h.read_ne] at hunits
      cases hunits
  | succ k ih =>
      obtain ⟨m, hinside, hcount, hdrift, hready, hip, hread⟩ := h.exists_turn
      have hsound := sound_after h.sound (σ.take m)
      have hwithin : ∀ k, k < m → ∃ position, (e.after (σ.take k)).ip = some position ∧
          i ≤ position ∧ position ≤ j := by
        intro k hk
        obtain ⟨position, hposition, hlow, hhigh⟩ := hinside k hk
        exact ⟨position, hposition, hlow, Nat.le_of_lt hhigh⟩
      have hleft : units (e.tape.read - 1) = k :=
        Nat.succ.inj ((units_sub_one h.read_ne).symm.trans hunits)
      by_cases hzero : e.tape.read - 1 = 0
      · rw [if_pos hzero] at hip
        obtain ⟨n, hleaves, htrail⟩ := exists_leavesAt_of_zero hsound (h.fair.drop m) hready
          (Nat.le_of_lt h.joins.lt) hip (hread.trans hzero)
        refine ⟨m + n, hleaves.of_drop hwithin hdrift, ?_⟩
        rw [Stream'.take_add, trail_append, htrail, List.append_nil, hcount, ← hleft, hzero]
        rfl
      · rw [if_neg hzero] at hip
        rw [← hread] at hleft hzero
        have hprogram : (e.after (σ.take m)).program = e.program := program_after e (σ.take m)
        have hagain : (e.after (σ.take m)).Counting (σ.drop m) i j :=
          ⟨hprogram.symm ▸ h.joins, hprogram.symm ▸ h.counts, hsound, h.fair.drop m, hready, hip,
            hzero⟩
        obtain ⟨n, hleaves, hrest⟩ := ih hagain hleft
        refine ⟨m + n, hleaves.of_drop hwithin hdrift, ?_⟩
        rw [Stream'.take_add, trail_append, List.count_append, hcount, hrest, Nat.add_comm]

end Counting

end Engine

/-! ## Straight bodies -/

/-- What an instruction does to the tape, if it moves the pointer or changes the cell. -/
def Instruction.onTape? : Instruction → Option (Tape → Tape)
  | .right => some Tape.right
  | .left => some Tape.left
  | .increment => some Tape.increment
  | .decrement => some Tape.decrement
  | _ => none

/-- What instructions do to a tape one after the other, if each of them only moves the pointer or
changes the cell. -/
def straight? : List Instruction → Tape → Option Tape
  | [], t => some t
  | x :: rest, t => x.onTape?.bind fun f => straight? rest (f t)

theorem loopEnd_not_mem_of_straight? (body : List Instruction) :
    ∀ {t t' : Tape}, straight? body t = some t' → .loopEnd ∉ body := by
  induction body with
  | nil => intro t t' _ hmem; cases hmem
  | cons x rest ih =>
      intro t t' h hmem
      obtain ⟨f, hf, hrest⟩ := Option.bind_eq_some_iff.mp h
      rcases List.mem_cons.mp hmem with rfl | hmem
      · cases hf
      · exact ih hrest hmem

namespace Engine

/-- Ticks and values in turn. -/
def alternate : Stream' Call := fun n => if n % 2 = 0 then .tick else .deliver 0

/-- Ticks and values in turn keep every engine going. -/
theorem fair_alternate (e : Engine) : e.Fair alternate where
  ticks n := ⟨2 * n, by omega, if_pos (Nat.mul_mod_right 2 n)⟩
  values n _ := by
    refine ⟨2 * n + 1, 0, by omega, if_neg ?_⟩
    omega
  steady n := by
    change (if n % 2 = 0 then Call.tick else Call.deliver 0) ≠ .reset
    split <;> simp

theorem perform_of_onTape? {e : Engine} {x : Instruction} {f : Tape → Tape}
    (h : x.onTape? = some f) (position : Nat) :
    e.perform x position = ⟨{ e with tape := f e.tape }, .dispatched x, []⟩ := by
  cases x with
  | right => cases h; rfl
  | left => cases h; rfl
  | increment => cases h; rfl
  | decrement => cases h; rfl
  | output => cases h
  | input => cases h
  | loopStart => cases h
  | loopEnd => cases h

/-- A straight part of a program is carried out under every fair schedule, and no value is taken.
The induction is on the part, for all places it can have in a program. -/
theorem Fair.exists_straight (body : List Instruction) :
    ∀ {e : Engine} {σ : Stream' Call} {t : Tape} {pre post : List Instruction},
      e.Fair σ → e.Ready →
      e.program.toList = pre ++ (body ++ post) → e.nextPosition = pre.length →
      straight? body e.tape = some t →
      ∃ n, (e.after (σ.take n)).Ready ∧
        (e.after (σ.take n)).nextPosition = pre.length + body.length ∧
        (e.after (σ.take n)).tape = t ∧ e.consumed (σ.take n) = [] ∧
        (e.trail (σ.take n)).map Prod.snd = body := by
  induction body with
  | nil =>
      intro e σ t pre post _ hready _ hnext htape
      exact ⟨0, hready, hnext, Option.some.inj htape, rfl, rfl⟩
  | cons x rest ih =>
      intro e σ t pre post hfair hready hcode hnext htape
      obtain ⟨f, hf, hrest⟩ := Option.bind_eq_some_iff.mp htape
      have hget : e.program.get? pre.length = some x := Program.get?_of_toList_eq hcode
      obtain ⟨m, hidles, hcall, hdispatches⟩ := hfair.exists_dispatches hready hnext hget
      obtain ⟨hafter, htrail, hconsumed⟩ := hidles.take_succ hcall
      have hbare := hidles.bare_eq m (Nat.le_refl m)
      -- After the first instruction the rest of the part is next.
      have hfirst : e.after (σ.take (m + 1)) =
          { (e.after (σ.take m)).begun with tape := f e.tape } := by
        rw [hafter, call, hdispatches.tick_eq, perform_of_onTape? hf, tape_begun,
          (eq_of_bare hbare).2.1]
      have hip : (e.after (σ.take (m + 1))).ip = some pre.length := by
        rw [hfirst]
        exact congrArg some ((nextPosition_of_bare hbare).trans hnext)
      have hready' : (e.after (σ.take (m + 1))).Ready := by
        refine ⟨?_, halted_of_inside hip ?_, ?_⟩
        · rw [hfirst]
          exact hdispatches.ready.fault_eq
        · rw [program_after]
          exact Program.lt_length_of_get? hget
        · rw [hfirst]
          exact hdispatches.ready.blocked_eq
      have hcode' : (e.after (σ.take (m + 1))).program.toList = (pre ++ [x]) ++ (rest ++ post) := by
        rw [program_after, hcode]
        simp
      have hnext' : (e.after (σ.take (m + 1))).nextPosition = (pre ++ [x]).length := by
        rw [nextPosition, hip, List.length_append]
        rfl
      have htape'' : straight? rest (e.after (σ.take (m + 1))).tape = some t := by
        rw [hfirst]
        exact hrest
      obtain ⟨n, hready'', hend, hlast, hnone, hpart⟩ :=
        ih (hfair.drop (m + 1)) hready' hcode' hnext' htape''
      refine ⟨m + 1 + n, ?_⟩
      rw [Stream'.take_add, after_append, consumed_append, trail_append, hconsumed,
        Call.taken_tick, htrail, call, hdispatches.dispatched_eq]
      refine ⟨hready'', ?_, hlast, hnone, ?_⟩
      · simp only [hend, List.length_append, List.length_cons, List.length_nil]
        omega
      · rw [List.map_append, hpart]
        rfl

end Engine

/-- A straight body counts down if it moves as often to the right as to the left and leaves one
less in the cell. -/
theorem Program.countsDown_of_straight {p : Program} {pre body post : List Instruction}
    (hcode : p.toList = pre ++ .loopStart :: (body ++ .loopEnd :: post))
    (hmoves : body.count .right = body.count .left)
    (hbody : ∀ t : Tape, t.read ≠ 0 → ∃ t', straight? body t = some t' ∧ t'.read = t.read - 1) :
    p.CountsDown pre.length (pre.length + 1 + body.length) := by
  intro t inputs hread e
  have hcode' : p.toList = (pre ++ [.loopStart]) ++ (body ++ .loopEnd :: post) := by
    simpa using hcode
  have hlength : (pre ++ [Instruction.loopStart]).length = pre.length + 1 := by simp
  have hend : p.get? (pre.length + 1 + body.length) = some .loopEnd := by
    rw [← List.append_assoc] at hcode'
    rw [← hlength, ← List.length_append]
    exact get?_of_toList_eq hcode'
  have hready : e.Ready := by
    refine ⟨rfl, Engine.halted_of_inside (e := e) rfl ?_, rfl⟩
    exact lt_length_of_get? (get?_of_toList_eq hcode)
  have hfair := e.fair_alternate
  obtain ⟨t', htape, hless⟩ := hbody t hread
  obtain ⟨n, hready', hnext, hlast, hnone, hpart⟩ :=
    hfair.exists_straight body hready hcode' hlength.symm htape
  rw [hlength] at hnext
  have hprogram : (e.after (Engine.alternate.take n)).program = p := Engine.program_after e _
  obtain ⟨m, hidles, -, hdispatches⟩ := (hfair.drop n).exists_dispatches hready' hnext
    (hprogram.symm ▸ hend)
  have htrail : e.trail (Engine.alternate.take (n + m)) = e.trail (Engine.alternate.take n) := by
    rw [Stream'.take_add, Engine.trail_append, hidles.trail_eq, List.append_nil]
  refine ⟨Engine.alternate.take (n + m), hfair.reset_not_mem_take (n + m), ⟨0, ?_⟩, ?_, ?_, ?_, ?_⟩
  · rw [Stream'.take_add, Engine.consumed_append, hnone, hidles.consumed_eq]
    rfl
  · rw [Stream'.take_add, Engine.after_append]
    exact hdispatches
  · rw [htrail]
    intro hmem
    have hin := List.mem_map_of_mem (f := Prod.snd) hmem
    rw [hpart] at hin
    exact loopEnd_not_mem_of_straight? body htape hin
  · rw [htrail, drift, hpart, hmoves, Int.sub_self]
  · have hbare := hidles.bare_eq m (Nat.le_refl m)
    rw [Stream'.take_add, Engine.after_append, (Engine.eq_of_bare hbare).2.1, hlast, hless]

/-! ## Once per unit -/

/-- A counting loop runs its body once per unit of the cell.  Let the start bracket of a loop have
just been carried out, after any history, and let any fair schedule follow.  If the cell is not
zero and the body counts down, the end bracket is carried out as many times as the cell has units
before the instruction pointer moves past it, and then that cell is zero.  If the cell is zero
nothing is carried out before the instruction pointer moves past the loop. -/
theorem loop_runs_once_per_unit {p : Program} {i j : Nat} (hjoins : p.Joins i j)
    (history : List Call) (σ : Stream' Call)
    (hstart : ((Engine.load p).after history).Dispatches .loopStart i)
    (hfair : ((Engine.load p).after history).tick.engine.Fair σ) :
    let v := ((Engine.load p).after history).tape.read
    let e := ((Engine.load p).after history).tick.engine
    (v ≠ 0 → p.CountsDown i j →
      ∃ n, e.LeavesAt σ i j n ∧ (e.trail (σ.take n)).count (j, .loopEnd) = units v) ∧
    (v = 0 → ∃ n, e.LeavesAt σ i j n ∧ e.trail (σ.take n) = []) := by
  intro v e
  have hprogram : ((Engine.load p).after history).program = p :=
    Engine.program_after (Engine.load p) history
  have hsound := Engine.sound_after (e := Engine.load p) (JumpMemo.sound_blank p) history
  have hsound' : e.memo.Sound e.program := Engine.memo_sound_call hsound .tick
  have hprogram' : e.program = p := (Engine.program_call _ .tick).trans hprogram
  obtain ⟨hready, hip, htape⟩ :=
    Engine.tick_bracket hsound (hprogram.symm ▸ hjoins) (.inl hstart)
  constructor
  · intro hv hcounts
    rw [if_neg hv] at hip
    have hcounting : e.Counting σ i j :=
      ⟨hprogram'.symm ▸ hjoins, hprogram'.symm ▸ hcounts, hsound', hfair, hready, hip,
        htape.symm ▸ hv⟩
    obtain ⟨n, hleaves, hcount⟩ := hcounting.exists_leavesAt
    exact ⟨n, hleaves, hcount.trans (congrArg (fun t : Tape => units t.read) htape)⟩
  · intro hv
    rw [if_pos hv] at hip
    exact Engine.exists_leavesAt_of_zero hsound' hfair hready (Nat.le_of_lt hjoins.lt) hip
      ((congrArg Tape.read htape).trans hv)

/-- The body `>+<-` has run 2^64 - 1 times when a loop is left that was entered with minus one, and
not once when it was come to with zero. -/
theorem loop_runs_once_per_unit_of_minus_one :
    let body : List Instruction := [.right, .increment, .left, .decrement]
    let p := Program.ofList (.decrement :: .loopStart :: (body ++ [.loopEnd]))
    let e := (Engine.load p).after (List.replicate 116 .tick)
    let q := Program.ofList (.loopStart :: (body ++ [.loopEnd]))
    let f := (Engine.load q).after (List.replicate 59 .tick)
    (∃ n, e.tick.engine.LeavesAt Engine.alternate 1 6 n ∧
      (e.tick.engine.trail (Engine.alternate.take n)).count (6, .loopEnd) =
        18446744073709551615) ∧
    ∃ n, f.tick.engine.LeavesAt Engine.alternate 0 5 n ∧
      f.tick.engine.trail (Engine.alternate.take n) = [] := by
  intro body p e q f
  have hbody : Balanced body :=
    .plain (by decide) (by decide) (.plain (by decide) (by decide)
      (.plain (by decide) (by decide) (.plain (by decide) (by decide) .nil)))
  have hcode : p.toList = [.decrement] ++ .loopStart :: (body ++ .loopEnd :: []) := rfl
  have hcounts : p.CountsDown 1 6 := by
    refine Program.countsDown_of_straight hcode rfl ?_
    rintro ⟨before, current, after⟩ -
    cases after with
    | nil => exact ⟨_, rfl, rfl⟩
    | cons c rest => exact ⟨_, rfl, rfl⟩
  have hp : p.Joins 1 6 := Program.joins_of_toList_eq hcode hbody
  have hq : q.Joins 0 5 := by
    have hcode' : q.toList = [] ++ .loopStart :: (body ++ .loopEnd :: []) := rfl
    exact Program.joins_of_toList_eq hcode' hbody
  obtain ⟨⟨hfault, hhalted, hblocked⟩, hdue, hnext, hget, hread⟩ :
      (e.fault = none ∧ e.halted = false ∧ e.blocked = false) ∧ e.clock.count.isDue = true ∧
        e.nextPosition = 1 ∧ e.program.get? 1 = some .loopStart ∧ e.tape.read = -1 := by
    decide +kernel
  have he : e.Dispatches .loopStart 1 :=
    Engine.dispatches_iff.mpr ⟨⟨hfault, hhalted, hblocked⟩, hdue, hnext, hget⟩
  obtain ⟨⟨hfault', hhalted', hblocked'⟩, hdue', hnext', hget', hread'⟩ :
      (f.fault = none ∧ f.halted = false ∧ f.blocked = false) ∧ f.clock.count.isDue = true ∧
        f.nextPosition = 0 ∧ f.program.get? 0 = some .loopStart ∧ f.tape.read = 0 := by
    decide +kernel
  have hf : f.Dispatches .loopStart 0 :=
    Engine.dispatches_iff.mpr ⟨⟨hfault', hhalted', hblocked'⟩, hdue', hnext', hget'⟩
  obtain ⟨hturns, -⟩ := loop_runs_once_per_unit hp _ _ he (Engine.fair_alternate _)
  obtain ⟨-, hskips⟩ := loop_runs_once_per_unit hq _ _ hf (Engine.fair_alternate _)
  refine ⟨?_, hskips hread'⟩
  obtain ⟨n, hleaves, hcount⟩ := hturns (by rw [hread]; decide) hcounts
  refine ⟨n, hleaves, ?_⟩
  rw [hcount, hread]
  rfl

end TapeConsole
