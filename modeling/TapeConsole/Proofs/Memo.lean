import TapeConsole.Proofs.Calls
import TapeConsole.Proofs.Nesting
set_option autoImplicit false

/-!
# The memo of partners

The memo is filled from either end of a pair, is read without regard to the
direction and is kept by a reset.  It is right all the same: `JumpMemo.Sound`
says that its entries are pairs of brackets that belong together, known from
both ends, and every call keeps it (`Engine.memo_sound_after`).  With a sound
memo a jump is decided by the program alone (`Engine.jump_eq`), and the memo
shows only in the record of the jump.
-/

namespace TapeConsole

/-! ## Pairs without a direction -/

namespace Program

/-- The brackets at the two positions belong together, in either order. -/
def Paired (p : Program) (a b : Nat) : Prop := p.Joins a b ∨ p.Joins b a

theorem Paired.symm {p : Program} {a b : Nat} (h : p.Paired a b) : p.Paired b a := Or.symm h

theorem Paired.ne {p : Program} {a b : Nat} (h : p.Paired a b) : a ≠ b := by
  cases h with
  | inl h => exact Nat.ne_of_lt h.lt
  | inr h => exact Nat.ne_of_gt h.lt

theorem Paired.lt_length {p : Program} {a b : Nat} (h : p.Paired a b) : a < p.length := by
  cases h with
  | inl h => exact lt_length_of_get? h.start_eq
  | inr h => exact lt_length_of_get? h.end_eq

/-- A bracket cannot end one pair and start another, so it has one partner. -/
theorem Paired.unique {p : Program} {a b b' : Nat} (h : p.Paired a b) (h' : p.Paired a b') :
    b = b' := by
  cases h with
  | inl h =>
      cases h' with
      | inl h' => exact h.end_unique h'
      | inr h' => exact absurd (h.start_eq.symm.trans h'.end_eq) (by simp)
  | inr h =>
      cases h' with
      | inl h' => exact absurd (h.end_eq.symm.trans h'.start_eq) (by simp)
      | inr h' => exact h.start_unique h'

/-- A search from a bracket, in the direction of that bracket, finds its partner. -/
theorem partner_eq_ok_iff {p : Program} {source target : Nat} {direction : Direction}
    (hget : p.get? source = some direction.bracket) :
    p.partner source direction = .ok target ↔ p.Paired source target := by
  cases direction with
  | forward =>
      rw [partner_forward_eq_ok_iff hget]
      constructor
      · exact .inl
      · rintro (h | h)
        · exact h
        · exact absurd (hget.symm.trans h.end_eq) (by simp [Direction.bracket])
  | backward =>
      rw [partner_backward_eq_ok_iff hget]
      constructor
      · exact .inr
      · rintro (h | h)
        · exact absurd (hget.symm.trans h.start_eq) (by simp [Direction.bracket])
        · exact h

end Program

/-! ## Sound memos -/

namespace JumpMemo

/-- The memo knows only pairs of the program, and each of them from both ends. -/
structure Sound (m : JumpMemo) (p : Program) : Prop where
  /-- There is a place for each position. -/
  size_eq : m.partners.size = p.length
  /-- A pair is known from both ends. -/
  symmetric : ∀ {a b : Nat}, m.get? a = some b → m.get? b = some a
  /-- What is known are brackets that belong together. -/
  paired : ∀ {a b : Nat}, m.get? a = some b → p.Paired a b

theorem get?_blank (n i : Nat) : (blank n).get? i = none := by
  unfold get? blank
  rw [Array.getElem?_replicate]
  split <;> rfl

theorem sound_blank (p : Program) : (blank p.length).Sound p where
  size_eq := by simp [blank]
  symmetric := by
    intro a b h
    rw [get?_blank] at h
    cases h
  paired := by
    intro a b h
    rw [get?_blank] at h
    cases h

theorem get?_link {m : JumpMemo} {a b : Nat} (ha : a < m.partners.size) (hb : b < m.partners.size)
    (i : Nat) :
    (m.link a b).get? i = if i = b then some a else if i = a then some b else m.get? i := by
  unfold get? link
  simp only [Array.getElem?_setIfInBounds, Array.size_setIfInBounds]
  by_cases hib : i = b
  · subst hib
    simp [hb]
  · rw [if_neg (Ne.symm hib), if_neg hib]
    by_cases hia : i = a
    · subst hia
      simp [ha]
    · rw [if_neg (Ne.symm hia), if_neg hia]

/-- To remember a pair that is known changes nothing. -/
theorem link_of_known {m : JumpMemo} {a b : Nat} (hab : m.get? a = some b)
    (hba : m.get? b = some a) : m.link a b = m := by
  have hset : ∀ {x y : Nat}, m.get? x = some y →
      m.partners.setIfInBounds x (some y) = m.partners := by
    intro x y hxy
    apply Array.ext_getElem?
    intro i
    rw [Array.getElem?_setIfInBounds]
    split
    · rename_i hxi
      subst hxi
      have hjoin : m.partners[x]? = some (some y) := Option.join_eq_some_iff.mp hxy
      obtain ⟨hlt, -⟩ := Array.getElem?_eq_some_iff.mp hjoin
      rw [if_pos hlt, hjoin]
    · rfl
  unfold link
  rw [hset hab, hset hba]

/-- Remembering a pair keeps a memo sound.  No other entry is lost: the two ends have no other
partner. -/
theorem Sound.link {m : JumpMemo} {p : Program} (h : m.Sound p) {a b : Nat}
    (hpair : p.Paired a b) : (m.link a b).Sound p := by
  have ha : a < m.partners.size := by
    rw [h.size_eq]
    exact hpair.lt_length
  have hb : b < m.partners.size := by
    rw [h.size_eq]
    exact hpair.symm.lt_length
  have hget := get?_link ha hb
  refine ⟨by simp [JumpMemo.link, h.size_eq], ?_, ?_⟩
  · intro x y hxy
    rw [hget] at hxy
    split at hxy
    · rename_i hxb
      obtain rfl := Option.some.inj hxy
      rw [hget, if_neg hpair.ne, if_pos rfl, hxb]
    · rename_i hxb
      split at hxy
      · rename_i hxa
        obtain rfl := Option.some.inj hxy
        rw [hget, if_pos rfl, hxa]
      · rename_i hxa
        have hother := h.paired hxy
        have hyb : y ≠ b := by
          rintro rfl
          exact hxa (hother.symm.unique hpair.symm)
        have hya : y ≠ a := by
          rintro rfl
          exact hxb (hother.symm.unique hpair)
        rw [hget, if_neg hyb, if_neg hya]
        exact h.symmetric hxy
  · intro x y hxy
    rw [hget] at hxy
    split at hxy
    · rename_i hxb
      obtain rfl := Option.some.inj hxy
      rw [hxb]
      exact hpair.symm
    · split at hxy
      · rename_i hxa
        obtain rfl := Option.some.inj hxy
        rw [hxa]
        exact hpair
      · exact h.paired hxy

/-- A sound memo resolves a bracket to what a search finds, and knows the pair from then on. -/
theorem Sound.resolve_eq {m : JumpMemo} {p : Program} (h : m.Sound p) {source : Nat}
    {direction : Direction} (hget : p.get? source = some direction.bracket) :
    m.resolve p source direction =
      match p.partner source direction with
      | .ok target => .ok ⟨target, m.link source target, (m.get? source).isSome⟩
      | .error fault => .error fault := by
  unfold resolve
  cases hknown : m.get? source with
  | none => rfl
  | some target =>
      have hfound : p.partner source direction = .ok target :=
        (Program.partner_eq_ok_iff hget).mpr (h.paired hknown)
      rw [hfound]
      simp only [link_of_known hknown (h.symmetric hknown), Option.isSome_some]

end JumpMemo

/-! ## Calls keep the memo sound -/

namespace Engine

/-- With a sound memo a jump is decided by the program alone; the memo shows only in the
record. -/
theorem jump_eq {e : Engine} (hsound : e.memo.Sound e.program) {source : Nat}
    {direction : Direction} (hget : e.program.get? source = some direction.bracket)
    (i : Instruction) :
    e.jump i source direction =
      match e.program.partner source direction with
      | .ok target =>
          ⟨{ e with ip := some target, memo := e.memo.link source target }, .dispatched i,
            [.note (.jump source target (e.memo.get? source).isSome)]⟩
      | .error fault =>
          ⟨{ e with fault := some fault }, .faulted fault, [.note (.fault fault)]⟩ := by
  unfold jump
  rw [hsound.resolve_eq hget]
  cases e.program.partner source direction <;> rfl

theorem program_jump (e : Engine) (i : Instruction) (source : Nat) (direction : Direction) :
    (e.jump i source direction).engine.program = e.program := by
  unfold jump
  split <;> rfl

theorem program_perform (e : Engine) (i : Instruction) (position : Nat) :
    (e.perform i position).engine.program = e.program := by
  obtain ⟨direction, -, h⟩ | ⟨_, _, _, _, h⟩ := e.perform_cases i position
  · rw [h, program_jump]
  · rw [h]

theorem program_dispatch (e : Engine) : e.dispatch.engine.program = e.program := by
  cases hget : e.program.get? e.nextPosition with
  | none => rw [dispatch_of_none hget]
  | some i =>
      rw [dispatch_of_some hget]
      exact program_perform e.started i e.nextPosition

/-- The program is never exchanged. -/
theorem program_call (e : Engine) (c : Call) : (e.call c).engine.program = e.program := by
  cases c with
  | tick =>
      simp only [call]
      obtain ⟨_, _, h⟩ | ⟨_, _, h⟩ | ⟨_, _, _, h⟩ | ⟨_, _, h⟩ | ⟨_, _, h⟩ := e.tick_cases
      · rw [h]
      · rw [h]
      · rw [h]; rfl
      · rw [h]; rfl
      · rw [h, program_dispatch, program_still]
  | deliver v =>
      simp only [call, deliver]
      split <;> rfl
  | reset => rfl

theorem memo_sound_jump {e : Engine} (hsound : e.memo.Sound e.program) {source : Nat}
    {direction : Direction} (hget : e.program.get? source = some direction.bracket)
    (i : Instruction) : (e.jump i source direction).engine.memo.Sound e.program := by
  rw [jump_eq hsound hget]
  cases hfound : e.program.partner source direction with
  | ok target => exact hsound.link ((Program.partner_eq_ok_iff hget).mp hfound)
  | error fault => exact hsound

theorem memo_sound_perform {e : Engine} (hsound : e.memo.Sound e.program) {i : Instruction}
    {position : Nat} (hget : e.program.get? position = some i) :
    (e.perform i position).engine.memo.Sound e.program := by
  obtain ⟨direction, rfl, h⟩ | ⟨_, _, _, _, h⟩ := e.perform_cases i position
  · rw [h]
    exact memo_sound_jump hsound hget _
  · rw [h]
    exact hsound

theorem memo_sound_dispatch {e : Engine} (hsound : e.memo.Sound e.program) :
    e.dispatch.engine.memo.Sound e.program := by
  cases hget : e.program.get? e.nextPosition with
  | none =>
      rw [dispatch_of_none hget]
      exact hsound
  | some i =>
      rw [dispatch_of_some hget]
      exact memo_sound_perform (e := e.started) hsound hget

/-- One call keeps the memo sound, also a reset, which keeps the memo as it is. -/
theorem memo_sound_call {e : Engine} (hsound : e.memo.Sound e.program) (c : Call) :
    (e.call c).engine.memo.Sound (e.call c).engine.program := by
  rw [program_call]
  cases c with
  | tick =>
      simp only [call]
      obtain ⟨_, _, h⟩ | ⟨_, _, h⟩ | ⟨_, _, _, h⟩ | ⟨_, _, h⟩ | ⟨_, _, h⟩ := e.tick_cases
      · rw [h]; exact hsound
      · rw [h]; exact hsound
      · rw [h]; exact hsound
      · rw [h]; exact hsound
      · rw [h]; exact memo_sound_dispatch (e := e.still) hsound
  | deliver v =>
      simp only [call, deliver]
      split <;> exact hsound
  | reset => exact hsound

theorem program_after (e : Engine) (calls : List Call) : (e.after calls).program = e.program :=
  after_induction (P := fun e' => e'.program = e.program)
    (fun e' c h => (program_call e' c).trans h) calls e rfl

/-- After every history the memo is sound. -/
theorem memo_sound_after (p : Program) (calls : List Call) :
    ((load p).after calls).memo.Sound p := by
  have h : ((load p).after calls).memo.Sound ((load p).after calls).program :=
    after_induction (P := fun e => e.memo.Sound e.program)
      (fun e c h => memo_sound_call h c) calls (load p) (JumpMemo.sound_blank p)
  rwa [program_after] at h

end Engine

/-- The memo never changes where a jump goes.  After every history its entries are pairs of
brackets that belong together, known from both ends, and to resolve a bracket in its direction
gives what a search through the program alone gives: the same partner, or the same fault. -/
theorem resolve_eq_partner_after (p : Program) (calls : List Call) :
    let memo := ((Engine.load p).after calls).memo
    (∀ a b, memo.get? a = some b → memo.get? b = some a) ∧
    (∀ a b, memo.get? a = some b → p.Joins a b ∨ p.Joins b a) ∧
    ∀ position direction, p.get? position = some (Direction.bracket direction) →
      (memo.resolve p position direction).map (·.target) = p.partner position direction := by
  intro memo
  have hsound : memo.Sound p := Engine.memo_sound_after p calls
  refine ⟨fun a b h => hsound.symmetric h, fun a b h => hsound.paired h, ?_⟩
  intro position direction hget
  rw [hsound.resolve_eq hget]
  cases p.partner position direction <;> rfl

/-- A search forward has filled the memo, and a reset has kept it: the way back is known. -/
theorem resolve_eq_partner_after_reset :
    let p := Program.ofList [.loopStart, .loopEnd]
    let memo := ((Engine.load p).after (List.replicate 60 .tick ++ [.reset])).memo
    memo.get? 0 = some 1 ∧ memo.get? 1 = some 0 ∧ (p.Joins 0 1 ∨ p.Joins 1 0) ∧
      (memo.resolve p 1 .backward).map (·.target) = p.partner 1 .backward := by
  intro p memo
  have hknown : memo.get? 0 = some 1 := by decide +kernel
  obtain ⟨hsymmetric, hjoins, hresolve⟩ :=
    resolve_eq_partner_after p (List.replicate 60 .tick ++ [.reset])
  exact ⟨hknown, hsymmetric 0 1 hknown, hjoins 0 1 hknown, hresolve 1 .backward (by decide)⟩

end TapeConsole
