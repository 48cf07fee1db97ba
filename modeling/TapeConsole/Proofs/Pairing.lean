import TapeConsole.Proofs.Memo
set_option autoImplicit false

/-!
# Pairing brackets with a stack

One pass from left to right pairs all brackets of a program.  A start bracket is
put on a stack and an end bracket takes the latest one off.  What is left on the
stack at the end, and every end bracket that found the stack empty, is unmatched.

An engine does not make this pass; it looks for one partner at a time and counts.
`Pairing.Tells` is the invariant of the pass: whatever has been read, the pass
knows which of its brackets belong together and which stand alone.  From it,

    Program.matched_iff
    Program.unmatched_iff

say that the pass and the search agree about every bracket of every program.
-/

namespace TapeConsole

/-! ## The pass -/

/-- What the pass knows about the brackets it has read. -/
structure Pairing where
  /-- The start brackets on the stack, the latest first. -/
  pending : List Nat := []
  /-- The pairs, each with its start bracket first. -/
  pairs : List (Nat × Nat) := []
  /-- The end brackets that found the stack empty. -/
  stray : List Nat := []
  deriving DecidableEq, Repr, Inhabited

namespace Pairing

/-- Read one instruction. -/
def meet (s : Pairing) (position : Nat) : Instruction → Pairing
  | .loopStart => { s with pending := position :: s.pending }
  | .loopEnd =>
      match s.pending with
      | [] => { s with stray := position :: s.stray }
      | start :: rest => { s with pending := rest, pairs := (start, position) :: s.pairs }
  | _ => s

/-- Read a list of instructions, the first of which is at `position`. -/
def pass (s : Pairing) (position : Nat) : List Instruction → Pairing
  | [] => s
  | i :: rest => (s.meet position i).pass (position + 1) rest

end Pairing

namespace Program

/-- What the pass knows at the end of a program. -/
def pairing (p : Program) : Pairing := Pairing.pass {} 0 p.toList

/-- The pass has paired the brackets at the two positions. -/
def Matched (p : Program) (a b : Nat) : Prop :=
  (a, b) ∈ p.pairing.pairs ∨ (b, a) ∈ p.pairing.pairs

/-- The pass has found a bracket without partner at the position. -/
def Unmatched (p : Program) (position : Nat) : Prop :=
  position ∈ p.pairing.pending ∨ position ∈ p.pairing.stray

/-! ## One instruction more -/

/-- What stands at a position was there before, or has just been read. -/
theorem get?_ofList_concat_iff {l : List Instruction} {i j : Instruction} {k : Nat} :
    (ofList (l ++ [i])).get? k = some j ↔
      (ofList l).get? k = some j ∨ (k = l.length ∧ i = j) := by
  rw [get?_eq_getElem?, get?_eq_getElem?, toList_ofList, toList_ofList,
    List.getElem?_append]
  by_cases hlt : k < l.length
  · rw [if_pos hlt]
    constructor
    · exact .inl
    · rintro (h | ⟨rfl, -⟩)
      · exact h
      · exact absurd hlt (Nat.lt_irrefl _)
  · rw [if_neg hlt, List.getElem?_eq_none (by omega : l.length ≤ k),
      List.getElem?_singleton]
    by_cases hlast : k = l.length
    · simp [hlast]
    · have hpast : k - l.length ≠ 0 := by omega
      simp [hlast, hpast]

theorem get?_ofList_length (l : List Instruction) : (ofList l).get? l.length = none := by
  rw [get?_eq_getElem?, toList_ofList, List.getElem?_eq_none (Nat.le_refl _)]

theorem lt_length_of_get?_ofList {l : List Instruction} {k : Nat} {i : Instruction}
    (h : (ofList l).get? k = some i) : k < l.length := by
  have hlt := lt_length_of_get? h
  rwa [← length_toList, toList_ofList] at hlt

/-- A pair of brackets is not changed by what follows. -/
theorem Joins.concat {l : List Instruction} {a b : Nat} (h : (ofList l).Joins a b)
    (i : Instruction) : (ofList (l ++ [i])).Joins a b where
  lt := h.lt
  start_eq := get?_ofList_concat_iff.mpr (.inl h.start_eq)
  end_eq := get?_ofList_concat_iff.mpr (.inl h.end_eq)
  between := by
    have hb : b < l.length := lt_length_of_get?_ofList h.end_eq
    have hbetween := h.between
    rw [toList_ofList] at hbetween ⊢
    rwa [List.take_append_of_le_length (Nat.le_of_lt hb)]

/-- A pair was there before, or it ends at an end bracket that has just been read. -/
theorem Joins.of_concat {l : List Instruction} {i : Instruction} {a b : Nat}
    (h : (ofList (l ++ [i])).Joins a b) :
    (ofList l).Joins a b ∨ (b = l.length ∧ i = .loopEnd) := by
  rcases get?_ofList_concat_iff.mp h.end_eq with hend | hlast
  · have hb : b < l.length := lt_length_of_get?_ofList hend
    have hlt := h.lt
    have hbetween := h.between
    rw [toList_ofList, List.take_append_of_le_length (Nat.le_of_lt hb)] at hbetween
    rcases get?_ofList_concat_iff.mp h.start_eq with hstart | ⟨hlast, -⟩
    · exact .inl ⟨hlt, hstart, hend, by rwa [toList_ofList]⟩
    · omega
  · exact .inr hlast

/-- Only an end bracket completes a pair. -/
theorem joins_concat_iff {l : List Instruction} {i : Instruction} (hi : i ≠ .loopEnd)
    {a b : Nat} : (ofList (l ++ [i])).Joins a b ↔ (ofList l).Joins a b := by
  constructor
  · intro h
    rcases h.of_concat with hold | ⟨-, hend⟩
    · exact hold
    · exact absurd hend hi
  · intro h
    exact h.concat i

/-- A bracket that has just been read and stands alone is one more of those that do. -/
theorem alone_concat_iff {l : List Instruction} {i : Instruction} (P : Nat → Prop)
    (hlast : P l.length) {k : Nat} :
    k = l.length ∨ ((ofList l).get? k = some i ∧ P k) ↔
      (ofList (l ++ [i])).get? k = some i ∧ P k := by
  rw [get?_ofList_concat_iff]
  constructor
  · rintro (rfl | ⟨hget, hk⟩)
    · exact ⟨.inr ⟨rfl, rfl⟩, hlast⟩
    · exact ⟨.inl hget, hk⟩
  · rintro ⟨hget | ⟨hk, -⟩, halone⟩
    · exact .inr ⟨hget, halone⟩
    · exact .inl hk

end Program

/-! ## The stack -/

/-- The start brackets at these positions wait for their end brackets: what stands between one
and the next, and after the latest, is balanced. -/
inductive Waiting : List Instruction → List Nat → Prop where
  /-- Nothing waits. -/
  | none (l : List Instruction) : Waiting l []
  /-- One more start bracket, and a balanced list after it. -/
  | more {outer body : List Instruction} {stack : List Nat} (houter : Waiting outer stack)
      (hbody : Balanced body) :
      Waiting (outer ++ .loopStart :: body) (outer.length :: stack)

namespace Waiting

/-- The same brackets wait after a balanced list. -/
theorem append {l : List Instruction} {stack : List Nat} (h : Waiting l stack)
    {body : List Instruction} (hbody : Balanced body) : Waiting (l ++ body) stack := by
  cases h with
  | none => exact .none _
  | @more outer inner stack houter hinner =>
      have hmore := Waiting.more houter (hinner.append hbody)
      rwa [← List.cons_append, ← List.append_assoc] at hmore

theorem lt_length {l : List Instruction} {stack : List Nat} (h : Waiting l stack) :
    ∀ a ∈ stack, a < l.length := by
  induction h with
  | none => intro a ha; cases ha
  | @more outer body stack _ _ ih =>
      intro a ha
      rw [List.length_append, List.length_cons]
      rcases List.mem_cons.mp ha with rfl | hrest
      · omega
      · have hlt := ih a hrest
        omega

/-- An end bracket belongs to the latest start bracket that waits, and takes it off the stack. -/
theorem pop {l : List Instruction} {start : Nat} {stack : List Nat}
    (h : Waiting l (start :: stack)) :
    (Program.ofList (l ++ [.loopEnd])).Joins start l.length ∧
      Waiting (l ++ [.loopEnd]) stack ∧ ∀ a ∈ stack, a < start := by
  cases h with
  | @more outer body _ houter hbody =>
      have hlength : (outer ++ Instruction.loopStart :: body).length =
          outer.length + 1 + body.length := by
        simp only [List.length_append, List.length_cons]
        omega
      have hloop : Balanced (.loopStart :: (body ++ .loopEnd :: [])) := .loop hbody .nil
      refine ⟨?_, ?_, houter.lt_length⟩
      · have hcode :
            (Program.ofList (outer ++ Instruction.loopStart :: body ++ [.loopEnd])).toList =
              outer ++ .loopStart :: (body ++ .loopEnd :: []) := by
          simp
        rw [hlength]
        exact Program.joins_of_toList_eq hcode hbody
      · have hwaiting := houter.append hloop
        rwa [List.append_assoc, List.cons_append]

end Waiting

/-! ## The invariant of the pass -/

/-- The pass has read `l` and knows all about its brackets: which belong together, which start
brackets and which end brackets belong to none. -/
structure Pairing.Tells (s : Pairing) (l : List Instruction) : Prop where
  waiting : Waiting l s.pending
  mem_pairs : ∀ {a b : Nat}, (a, b) ∈ s.pairs ↔ (Program.ofList l).Joins a b
  mem_pending : ∀ {a : Nat}, a ∈ s.pending ↔
    (Program.ofList l).get? a = some .loopStart ∧ ∀ b, ¬(Program.ofList l).Joins a b
  mem_stray : ∀ {b : Nat}, b ∈ s.stray ↔
    (Program.ofList l).get? b = some .loopEnd ∧ ∀ a, ¬(Program.ofList l).Joins a b

namespace Pairing.Tells

open Program

theorem nil : Tells {} [] where
  waiting := .none []
  mem_pairs := by
    intro a b
    constructor
    · intro h; cases h
    · intro h; cases h.start_eq
  mem_pending := by
    intro a
    constructor
    · intro h; cases h
    · rintro ⟨h, -⟩; cases h
  mem_stray := by
    intro b
    constructor
    · intro h; cases h
    · rintro ⟨h, -⟩; cases h

variable {s : Pairing} {l : List Instruction}

/-- An instruction that is no bracket changes nothing. -/
theorem plain (h : s.Tells l) {i : Instruction} (hstart : i ≠ .loopStart) (hend : i ≠ .loopEnd) :
    s.Tells (l ++ [i]) where
  waiting := h.waiting.append (.plain hstart hend .nil)
  mem_pairs := by
    intro a b
    rw [joins_concat_iff hend, h.mem_pairs]
  mem_pending := by
    intro a
    simp only [joins_concat_iff hend, get?_ofList_concat_iff, hstart, and_false, or_false,
      h.mem_pending]
  mem_stray := by
    intro b
    simp only [joins_concat_iff hend, get?_ofList_concat_iff, hend, and_false, or_false,
      h.mem_stray]

/-- A start bracket is put on the stack. -/
theorem push (h : s.Tells l) :
    ({ s with pending := l.length :: s.pending } : Pairing).Tells (l ++ [.loopStart]) := by
  have hjoins : ∀ {a b : Nat}, (ofList (l ++ [.loopStart])).Joins a b ↔ (ofList l).Joins a b :=
    joins_concat_iff (by simp)
  have halone : ∀ b, ¬(ofList l).Joins l.length b := by
    intro b hb
    cases (get?_ofList_length l).symm.trans hb.start_eq
  refine ⟨.more h.waiting .nil, ?_, ?_, ?_⟩
  · intro a b
    rw [hjoins, h.mem_pairs]
  · intro a
    simp only [hjoins, List.mem_cons, h.mem_pending]
    exact alone_concat_iff (fun a => ∀ b, ¬(ofList l).Joins a b) halone
  · intro b
    simp only [hjoins, get?_ofList_concat_iff, reduceCtorEq, and_false, or_false, h.mem_stray]

/-- An end bracket that finds the stack empty belongs to no start bracket: all those before it
have a partner already. -/
theorem strand (h : s.Tells l) (hempty : s.pending = []) :
    ({ s with stray := l.length :: s.stray } : Pairing).Tells (l ++ [.loopEnd]) := by
  have hjoins : ∀ {a b : Nat}, (ofList (l ++ [.loopEnd])).Joins a b ↔ (ofList l).Joins a b := by
    intro a b
    constructor
    · intro hab
      rcases hab.of_concat with hold | ⟨hlast, -⟩
      · exact hold
      · have hlt := hab.lt
        rcases get?_ofList_concat_iff.mp hab.start_eq with hstart | ⟨hlast', -⟩
        · have hpaired : ¬∀ b', ¬(ofList l).Joins a b' := by
            intro hnone
            have hmem := h.mem_pending.mpr ⟨hstart, hnone⟩
            rw [hempty] at hmem
            cases hmem
          obtain ⟨b', hother⟩ := Classical.not_forall_not.mp hpaired
          exact (hother.concat .loopEnd).end_unique hab ▸ hother
        · omega
    · intro hab
      exact hab.concat _
  have halone : ∀ a, ¬(ofList l).Joins a l.length := by
    intro a ha
    cases (get?_ofList_length l).symm.trans ha.end_eq
  refine ⟨?_, ?_, ?_, ?_⟩
  · rw [hempty]
    exact .none _
  · intro a b
    rw [hjoins, h.mem_pairs]
  · intro a
    simp only [hjoins, get?_ofList_concat_iff, reduceCtorEq, and_false, or_false, h.mem_pending]
  · intro b
    simp only [hjoins, List.mem_cons, h.mem_stray]
    exact alone_concat_iff (fun b => ∀ a, ¬(ofList l).Joins a b) halone

/-- An end bracket takes the latest start bracket off the stack, and the two belong together. -/
theorem pop (h : s.Tells l) {start : Nat} {rest : List Nat} (hpending : s.pending = start :: rest) :
    ({ s with pending := rest, pairs := (start, l.length) :: s.pairs } : Pairing).Tells
      (l ++ [.loopEnd]) := by
  have hwaiting := h.waiting
  rw [hpending] at hwaiting
  rcases hwaiting.pop with ⟨hpair, hrest, hbelow⟩
  have hjoins : ∀ {a b : Nat}, (ofList (l ++ [.loopEnd])).Joins a b ↔
      (ofList l).Joins a b ∨ (a = start ∧ b = l.length) := by
    intro a b
    constructor
    · intro hab
      rcases hab.of_concat with hold | ⟨rfl, -⟩
      · exact .inl hold
      · exact .inr ⟨hab.start_unique hpair, rfl⟩
    · rintro (hold | ⟨rfl, rfl⟩)
      · exact hold.concat _
      · exact hpair
  refine ⟨hrest, ?_, ?_, ?_⟩
  · intro a b
    rw [hjoins, List.mem_cons, Prod.mk.injEq, h.mem_pairs, or_comm]
  · intro a
    have hold : a = start ∨ a ∈ rest ↔
        (ofList l).get? a = some .loopStart ∧ ∀ b, ¬(ofList l).Joins a b := by
      rw [← List.mem_cons, ← hpending, h.mem_pending]
    simp only [hjoins, get?_ofList_concat_iff, reduceCtorEq, and_false, or_false]
    constructor
    · intro ha
      rcases hold.mp (.inr ha) with ⟨hget, halone⟩
      refine ⟨hget, ?_⟩
      rintro b (hab | ⟨rfl, -⟩)
      · exact halone b hab
      · exact Nat.lt_irrefl _ (hbelow a ha)
    · rintro ⟨hget, halone⟩
      rcases hold.mpr ⟨hget, fun b hab => halone b (.inl hab)⟩ with rfl | ha
      · exact absurd (.inr ⟨rfl, rfl⟩) (halone l.length)
      · exact ha
  · intro b
    simp only [hjoins, get?_ofList_concat_iff, and_true, h.mem_stray]
    constructor
    · rintro ⟨hget, halone⟩
      refine ⟨.inl hget, ?_⟩
      rintro a (hab | ⟨-, rfl⟩)
      · exact halone a hab
      · exact Nat.lt_irrefl _ (lt_length_of_get?_ofList hget)
    · rintro ⟨hget | rfl, halone⟩
      · exact ⟨hget, fun a hab => halone a (.inl hab)⟩
      · exact absurd (.inr ⟨rfl, rfl⟩) (halone start)

/-- Reading one instruction keeps the invariant. -/
theorem meet (h : s.Tells l) (i : Instruction) : (s.meet l.length i).Tells (l ++ [i]) := by
  cases i with
  | loopStart => exact h.push
  | loopEnd =>
      unfold Pairing.meet
      simp only
      split
      · rename_i hempty
        exact h.strand hempty
      · rename_i start rest hpending
        exact h.pop hpending
  | _ => exact h.plain (by simp) (by simp)

/-- Reading a list of instructions keeps the invariant. -/
theorem pass (rest : List Instruction) :
    ∀ {s : Pairing} {l : List Instruction}, s.Tells l →
      (s.pass l.length rest).Tells (l ++ rest) := by
  induction rest with
  | nil =>
      intro s l h
      rw [List.append_nil]
      exact h
  | cons i rest ih =>
      intro s l h
      have hnext := ih (h.meet i)
      rwa [List.length_append, List.length_singleton, List.append_assoc, List.singleton_append]
        at hnext

end Pairing.Tells

/-! ## The pass and the search agree -/

namespace Program

theorem tells_pairing (p : Program) : p.pairing.Tells p.toList := by
  have h := Pairing.Tells.pass p.toList Pairing.Tells.nil
  rwa [List.nil_append, List.length_nil] at h

/-- The pass pairs the brackets that belong together, and no others. -/
theorem matched_iff {p : Program} {a b : Nat} : p.Matched a b ↔ p.Paired a b := by
  unfold Matched Paired
  rw [p.tells_pairing.mem_pairs, p.tells_pairing.mem_pairs, ofList_toList]

/-- A bracket is unmatched exactly if it belongs to no other bracket. -/
theorem unmatched_iff {p : Program} {position : Nat} {direction : Direction}
    (hget : p.get? position = some direction.bracket) :
    p.Unmatched position ↔ ∀ partner, ¬p.Paired position partner := by
  unfold Unmatched
  rw [p.tells_pairing.mem_pending, p.tells_pairing.mem_stray, ofList_toList, hget]
  cases direction with
  | forward =>
      constructor
      · rintro (⟨-, halone⟩ | ⟨hend, -⟩) partner
        · rintro (hjoins | hjoins)
          · exact halone partner hjoins
          · cases hget.symm.trans hjoins.end_eq
        · cases hend
      · intro halone
        exact .inl ⟨rfl, fun partner hjoins => halone partner (.inl hjoins)⟩
  | backward =>
      constructor
      · rintro (⟨hstart, -⟩ | ⟨-, halone⟩) partner
        · cases hstart
        · rintro (hjoins | hjoins)
          · cases hget.symm.trans hjoins.start_eq
          · exact halone partner hjoins
      · intro halone
        exact .inr ⟨rfl, fun partner hjoins => halone partner (.inr hjoins)⟩

end Program

end TapeConsole
