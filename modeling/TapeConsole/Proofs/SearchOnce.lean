import TapeConsole.Proofs.Transcript
set_option autoImplicit false

/-!
# Each pair of brackets is searched for once

Every jump leaves a record that says whether the partner was remembered or searched
for.  The memo only learns: what it knows after some jumps is what it knew before and
the pairs that were taken, each from both ends (`JumpMemo.Learns.get?_eq_some_iff`).
So a pair that has been taken in one direction is remembered in both from then on,
and is searched for once in the life of an engine.

`JumpMemo.Learns` says which records can come from a memo and which memo they lead to.
One call gives such records (`Engine.learns_call`), and so does a history
(`Engine.learns`); resets and faults leave no record and keep the memo.
-/

namespace TapeConsole

/-! ## Records of jumps -/

/-- A jump as it is recorded. -/
structure Jump where
  /-- The bracket that jumps. -/
  source : Nat
  /-- Its partner. -/
  target : Nat
  /-- Whether the partner was known, and not searched for. -/
  remembered : Bool
  deriving DecidableEq, Repr, Inhabited

/-- The jump takes the pair of these two positions, in either direction. -/
def Jump.Takes (j : Jump) (a b : Nat) : Prop :=
  (j.source = a ∧ j.target = b) ∨ (j.source = b ∧ j.target = a)

instance (j : Jump) (a b : Nat) : Decidable (j.Takes a b) := inferInstanceAs (Decidable (_ ∨ _))

/-- The jump that a signal records, none or one. -/
def Signal.jumps : Signal → List Jump
  | .note (.jump source target remembered) => [⟨source, target, remembered⟩]
  | _ => []

/-- The jumps that are recorded in a history, in order. -/
def Engine.jumps (e : Engine) (calls : List Call) : List Jump :=
  (e.signals calls).flatMap Signal.jumps

theorem Engine.jumps_cons (e : Engine) (c : Call) (rest : List Call) :
    e.jumps (c :: rest) =
      (e.call c).signals.flatMap Signal.jumps ++ (e.call c).engine.jumps rest :=
  List.flatMap_append

/-! ## What a memo learns from jumps -/

namespace JumpMemo

/-- A pair that is remembered is known from both ends, and nothing else has changed. -/
theorem Sound.get?_link_eq_some_iff {m : JumpMemo} {p : Program} (h : m.Sound p)
    {source target : Nat} (hpair : p.Paired source target) {a b : Nat} :
    (m.link source target).get? a = some b ↔
      m.get? a = some b ∨ (source = a ∧ target = b) ∨ (source = b ∧ target = a) := by
  have hsource : source < m.partners.size := h.size_eq ▸ hpair.lt_length
  have htarget : target < m.partners.size := h.size_eq ▸ hpair.symm.lt_length
  rw [get?_link hsource htarget]
  split
  · rename_i ha
    subst ha
    constructor
    · intro hb
      exact .inr (.inr ⟨Option.some.inj hb, rfl⟩)
    · rintro (hknown | ⟨rfl, -⟩ | ⟨rfl, -⟩)
      · rw [(h.paired hknown).unique hpair.symm]
      · exact absurd rfl hpair.ne
      · rfl
  · rename_i hne
    split
    · rename_i ha
      subst ha
      constructor
      · intro hb
        exact .inr (.inl ⟨rfl, Option.some.inj hb⟩)
      · rintro (hknown | ⟨-, rfl⟩ | ⟨-, htarget⟩)
        · rw [(h.paired hknown).unique hpair]
        · rfl
        · exact absurd htarget.symm hne
    · rename_i hother
      constructor
      · exact .inl
      · rintro (hknown | ⟨hsource, -⟩ | ⟨-, htarget⟩)
        · exact hknown
        · exact absurd hsource.symm hother
        · exact absurd htarget.symm hne

/-- The jumps can be made one after the other from the first memo on, and lead to the second. -/
inductive Learns (p : Program) : JumpMemo → List Jump → JumpMemo → Prop where
  /-- Nothing is learned without a jump. -/
  | nil (m : JumpMemo) : Learns p m [] m
  /-- A jump takes a pair of the program, which is known from then on. -/
  | cons {m m' : JumpMemo} {rest : List Jump} {source target : Nat}
      (hpair : p.Paired source target) (hrest : Learns p (m.link source target) rest m') :
      Learns p m (⟨source, target, (m.get? source).isSome⟩ :: rest) m'

namespace Learns

variable {p : Program} {m m' m'' : JumpMemo} {jumps later : List Jump}

theorem single {source target : Nat} (hpair : p.Paired source target) :
    Learns p m [⟨source, target, (m.get? source).isSome⟩] (m.link source target) :=
  .cons hpair (.nil _)

theorem append (h : Learns p m jumps m') (hlater : Learns p m' later m'') :
    Learns p m (jumps ++ later) m'' := by
  induction h with
  | nil => exact hlater
  | cons hpair _ ih => exact .cons hpair (ih hlater)

/-- What is known in the end is what was known before and the pairs that were taken. -/
theorem get?_eq_some_iff (h : Learns p m jumps m') (hsound : m.Sound p) {a b : Nat} :
    m'.get? a = some b ↔ m.get? a = some b ∨ ∃ j ∈ jumps, j.Takes a b := by
  induction h with
  | nil => simp
  | cons hpair _ ih =>
      rw [ih (hsound.link hpair), hsound.get?_link_eq_some_iff hpair, or_assoc]
      simp only [List.mem_cons, exists_eq_or_imp]
      rfl

/-- A partner that is known is never searched for again. -/
theorem eq_of_known (h : Learns p m jumps m') (hsound : m.Sound p) {a b : Nat}
    (hknown : m.get? a = some b) :
    ∀ j ∈ jumps, j.source = a → j = ⟨a, b, true⟩ := by
  induction h with
  | nil =>
      intro j hj
      cases hj
  | cons hpair _ ih =>
      intro j hj hsource
      cases hj with
      | head =>
          obtain rfl : _ = a := hsource
          rw [hpair.unique (hsound.paired hknown), hknown]
          rfl
      | tail _ hlater =>
          have hlinked := (hsound.get?_link_eq_some_iff hpair).mpr (.inl hknown)
          exact ih (hsound.link hpair) hlinked j hlater hsource

/-- A pair that is known is not searched for in either direction. -/
theorem count_of_known (h : Learns p m jumps m') (hsound : m.Sound p) {a b : Nat}
    (hknown : m.get? a = some b) :
    jumps.count ⟨a, b, false⟩ = 0 ∧ jumps.count ⟨b, a, false⟩ = 0 := by
  constructor
  · refine List.count_eq_zero.mpr fun hmem => ?_
    cases h.eq_of_known hsound hknown _ hmem rfl
  · refine List.count_eq_zero.mpr fun hmem => ?_
    cases h.eq_of_known hsound (hsound.symmetric hknown) _ hmem rfl

/-- A pair is searched for at most once, from one of its ends. -/
theorem count_le_one (h : Learns p m jumps m') (hsound : m.Sound p) (a b : Nat) :
    jumps.count ⟨a, b, false⟩ + jumps.count ⟨b, a, false⟩ ≤ 1 := by
  induction h with
  | nil => simp
  | @cons m m' rest source target hpair hrest ih =>
      have hlinked := hsound.link hpair
      by_cases htakes : (source = a ∧ target = b) ∨ (source = b ∧ target = a)
      · -- The pair is known after this jump, and the two ends are not the same.
        have hknown : (m.link source target).get? a = some b :=
          (hsound.get?_link_eq_some_iff hpair).mpr (.inr htakes)
        obtain ⟨hforth, hback⟩ := hrest.count_of_known hlinked hknown
        have hne : a ≠ b := (hlinked.paired hknown).ne
        rw [List.count_cons, List.count_cons, hforth, hback]
        rcases htakes with ⟨rfl, rfl⟩ | ⟨rfl, rfl⟩
        · simp only [beq_iff_eq, Jump.mk.injEq, hne, false_and, if_false]
          split <;> omega
        · simp only [beq_iff_eq, Jump.mk.injEq, hne.symm, false_and, if_false]
          split <;> omega
      · rw [not_or] at htakes
        have hforth : ¬(⟨source, target, (m.get? source).isSome⟩ : Jump) = ⟨a, b, false⟩ := by
          intro heq
          rw [Jump.mk.injEq] at heq
          exact htakes.1 ⟨heq.1, heq.2.1⟩
        have hback : ¬(⟨source, target, (m.get? source).isSome⟩ : Jump) = ⟨b, a, false⟩ := by
          intro heq
          rw [Jump.mk.injEq] at heq
          exact htakes.2 ⟨heq.1, heq.2.1⟩
        rw [List.count_cons_of_ne hforth, List.count_cons_of_ne hback]
        exact ih hlinked

end Learns

end JumpMemo

/-! ## What the memo of an engine learns -/

namespace Engine

open JumpMemo

/-- A tick that carries out an instruction records a jump if a bracket goes to its partner. -/
theorem learns_dispatch {e : Engine} (hsound : e.memo.Sound e.program) {i : Instruction}
    {position : Nat} (h : e.Dispatches i position) :
    Learns e.program e.memo (e.tick.signals.flatMap Signal.jumps) e.tick.engine.memo := by
  rw [h.tick_eq]
  cases performs (e := e.begun) hsound h.get?_eq with
  | stays _ _ _ hperform =>
      rw [hperform]
      exact .nil _
  | writes _ _ hperform =>
      rw [hperform]
      exact .nil _
  | waits _ _ hperform =>
      rw [hperform]
      exact .nil _
  | jumps _ _ hpaired hperform =>
      rw [hperform]
      exact .single hpaired
  | fails _ _ hperform =>
      rw [hperform]
      exact .nil _

/-- The records of one call lead from the memo before it to the memo after it. -/
theorem learns_call {e : Engine} (hsound : e.memo.Sound e.program) (c : Call) :
    Learns e.program e.memo ((e.call c).signals.flatMap Signal.jumps) (e.call c).engine.memo := by
  cases c with
  | tick =>
      simp only [call]
      cases e.tick_event with
      | faulted _ _ htick =>
          rw [htick]
          exact .nil _
      | ended _ _ htick =>
          rw [htick]
          exact .nil _
      | waiting _ _ _ htick =>
          rw [htick]
          exact .nil _
      | early _ htick =>
          rw [htick]
          exact .nil _
      | past _ _ htick =>
          rw [htick]
          exact .nil _
      | due i position hdispatches => exact learns_dispatch hsound hdispatches
  | deliver v =>
      simp only [call, deliver]
      split <;> exact .nil _
  | reset => exact .nil _

/-- The records of a history lead from the memo before it to the memo after it. -/
theorem learns (calls : List Call) :
    ∀ e : Engine, e.memo.Sound e.program →
      Learns e.program e.memo (e.jumps calls) (e.after calls).memo := by
  induction calls with
  | nil =>
      intro e _
      exact .nil _
  | cons c rest ih =>
      intro e hsound
      rw [jumps_cons, after_cons]
      have hrest := ih (e.call c).engine (memo_sound_call hsound c)
      rw [program_call] at hrest
      exact (learns_call hsound c).append hrest

/-- After a history of a new engine, the pairs are known that were taken in it. -/
theorem get?_memo_after_iff (p : Program) (calls : List Call) {a b : Nat} :
    ((load p).after calls).memo.get? a = some b ↔ ∃ j ∈ (load p).jumps calls, j.Takes a b := by
  have hlearns : Learns p (load p).memo _ _ := learns calls (load p) (JumpMemo.sound_blank p)
  have hblank : ¬(load p).memo.get? a = some b := by
    rw [show (load p).memo = .blank p.length from rfl, get?_blank]
    simp
  rw [hlearns.get?_eq_some_iff (JumpMemo.sound_blank p), or_iff_right hblank]

/-- A bracket that jumps leaves one record, of where it goes. -/
theorem jumps_tick_of_mustJump {e : Engine} (hsound : e.memo.Sound e.program) {i : Instruction}
    {position : Nat} (h : e.Dispatches i position) (hjump : i.MustJump e.tape.read)
    (hfault : e.tick.engine.fault = none) :
    ∃ target, e.tick.engine.ip = some target ∧ e.program.Paired position target ∧
      e.jumps [.tick] = [⟨position, target, (e.memo.get? position).isSome⟩] := by
  have hjumps : e.jumps [.tick] = e.tick.signals.flatMap Signal.jumps := by
    rw [jumps_cons]
    exact List.append_nil _
  rw [hjumps]
  rw [h.tick_eq] at hfault ⊢
  cases performs (e := e.begun) hsound h.get?_eq with
  | stays _ _ hstays _ => exact absurd hjump hstays
  | writes _ hstays _ => exact absurd hjump hstays
  | waits _ hstays _ => exact absurd hjump hstays
  | jumps target _ hpaired hperform =>
      rw [hperform]
      exact ⟨target, rfl, hpaired, rfl⟩
  | fails _ _ hperform =>
      rw [hperform] at hfault
      cases hfault

end Engine

/-- Each pair of brackets is searched for at most once in the life of an engine.  In the records of
any history there is at most one search for a pair, from either end.  Once a pair has been taken,
every later jump from one of its ends goes to the other and is remembered, whatever resets and
faults there are.  The memo never loses or changes an entry.  And records are made of what happens:
a bracket that jumps leaves one record, of where it goes, which says that the partner was remembered
exactly if the pair has been taken before. -/
theorem pair_searched_at_most_once (p : Program) (calls later : List Call) :
    let e := (Engine.load p).after calls
    let taken := (Engine.load p).jumps calls
    (∀ a b, taken.count ⟨a, b, false⟩ + taken.count ⟨b, a, false⟩ ≤ 1) ∧
    (∀ a b, (∃ j ∈ taken, j.Takes a b) →
      ∀ k ∈ e.jumps later, k.source = a → k = ⟨a, b, true⟩) ∧
    (∀ a b, e.memo.get? a = some b → (e.after later).memo.get? a = some b) ∧
    ∀ i a, e.Dispatches i a → i.MustJump e.tape.read → e.tick.engine.fault = none →
      ∃ b remembered, e.tick.engine.ip = some b ∧ e.jumps [.tick] = [⟨a, b, remembered⟩] ∧
        (remembered = true ↔ ∃ j ∈ taken, j.Takes a b) := by
  intro e taken
  have hfirst : JumpMemo.Learns p (Engine.load p).memo taken e.memo :=
    Engine.learns calls (Engine.load p) (JumpMemo.sound_blank p)
  have hprogram : e.program = p := Engine.program_after (Engine.load p) calls
  have hsound : e.memo.Sound p := Engine.memo_sound_after p calls
  have hlater : JumpMemo.Learns p e.memo (e.jumps later) (e.after later).memo := by
    have h := Engine.learns later e (hprogram ▸ hsound)
    rwa [hprogram] at h
  have hknown : ∀ {a b : Nat}, e.memo.get? a = some b ↔ ∃ j ∈ taken, j.Takes a b :=
    Engine.get?_memo_after_iff p calls
  refine ⟨hfirst.count_le_one (JumpMemo.sound_blank p), ?_, ?_, ?_⟩
  · intro a b htaken
    exact hlater.eq_of_known hsound (hknown.mpr htaken)
  · intro a b hentry
    exact (hlater.get?_eq_some_iff hsound).mpr (.inl hentry)
  · intro i a hdispatches hjump hfault
    obtain ⟨b, hip, hpaired, hjumps⟩ :=
      Engine.jumps_tick_of_mustJump (hprogram ▸ hsound) hdispatches hjump hfault
    refine ⟨b, _, hip, hjumps, ?_⟩
    rw [← hknown, Option.isSome_iff_exists]
    constructor
    · rintro ⟨b', hentry⟩
      rw [hprogram] at hpaired
      rwa [hpaired.unique (hsound.paired hentry)]
    · intro hentry
      exact ⟨b, hentry⟩

/-- The program `,[]` is given a zero and skips the loop, so the partner of the start is searched
for.  After a reset it is given a one, and the end jumps back without a search. -/
theorem pair_searched_at_most_once_of_way_back :
    let p := Program.ofList [.input, .loopStart, .loopEnd]
    let calls : List Call := List.replicate 60 .tick ++ .deliver 0 :: List.replicate 57 .tick
    let later : List Call :=
      .reset :: (List.replicate 60 .tick ++ .deliver 1 :: List.replicate 111 .tick)
    let e := (Engine.load p).after calls
    let taken := (Engine.load p).jumps calls
    ⟨1, 2, false⟩ ∈ taken ∧ taken.count ⟨1, 2, false⟩ + taken.count ⟨2, 1, false⟩ ≤ 1 ∧
      ∃ k ∈ e.jumps later, k.source = 2 ∧ k = ⟨2, 1, true⟩ := by
  intro p calls later e taken
  obtain ⟨honce, hremembered, -, -⟩ := pair_searched_at_most_once p calls later
  have hsearched : ⟨1, 2, false⟩ ∈ taken := by decide +kernel
  have hback : ∃ k ∈ e.jumps later, k.source = 2 := by decide +kernel
  obtain ⟨k, hk, hsource⟩ := hback
  exact ⟨hsearched, honce 1 2, k, hk, hsource,
    hremembered 2 1 ⟨_, hsearched, .inr ⟨rfl, rfl⟩⟩ k hk hsource⟩

end TapeConsole
