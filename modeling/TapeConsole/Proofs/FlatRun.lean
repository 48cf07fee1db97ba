import TapeConsole.Proofs.Memo
import TapeConsole.Proofs.Structured
set_option autoImplicit false

/-!
# Structured programs written flat

Written as instructions a structured program has lost its loops: there are
positions, and brackets that jump.  `Program.Moves` is one step of such a run and
`Program.HaltsIn` a run to the end, with its length.  The main result is

    Command.haltsIn_iff_evaluates

which says that the flat run ends in a store exactly if the evaluation does.

A jump lands on a bracket without carrying it out, so a loop that goes on does
not look at its start bracket again.  That makes no difference, because the two
brackets of a loop do the same thing (`Program.Joins.exists_common_move`).  The
brackets of a structured program are nested, so a run of it is never stuck
(`Program.exists_move`).
-/

namespace TapeConsole

/-- A place in a program: the position of the next instruction, and the store. -/
structure Point where
  position : Nat
  store : Store

namespace Program

/-! ## One step -/

/-- One instruction is carried out.  A bracket that jumps goes on after its partner. -/
inductive Moves (p : Program) : Point → Point → Prop where
  | act {position : Nat} {a : Action} {s s' : Store}
      (hget : p.get? position = some a.instruction) (hact : Acts a s s') :
      Moves p ⟨position, s⟩ ⟨position + 1, s'⟩
  | stay {position : Nat} {d : Direction} {s : Store}
      (hget : p.get? position = some d.bracket) (hstays : d.jumps s.tape.read = false) :
      Moves p ⟨position, s⟩ ⟨position + 1, s⟩
  | jump {position target : Nat} {d : Direction} {s : Store}
      (hget : p.get? position = some d.bracket) (hjumps : d.jumps s.tape.read = true)
      (hpair : p.Paired position target) :
      Moves p ⟨position, s⟩ ⟨target + 1, s⟩

end Program

theorem Action.instruction_injective {a a' : Action} (h : a.instruction = a'.instruction) :
    a = a' := by
  cases a <;> cases a' <;> first | rfl | cases h

theorem Direction.bracket_injective {d d' : Direction} (h : d.bracket = d'.bracket) : d = d' := by
  cases d <;> cases d' <;> first | rfl | cases h

theorem Action.instruction_ne_bracket (a : Action) (d : Direction) :
    a.instruction ≠ d.bracket := by
  cases a <;> cases d <;> intro h <;> cases h

/-- Every instruction is an action or a bracket. -/
theorem Instruction.action_or_bracket (i : Instruction) :
    (∃ a : Action, i = a.instruction) ∨ ∃ d : Direction, i = d.bracket := by
  cases i with
  | right => exact .inl ⟨.right, rfl⟩
  | left => exact .inl ⟨.left, rfl⟩
  | increment => exact .inl ⟨.increment, rfl⟩
  | decrement => exact .inl ⟨.decrement, rfl⟩
  | output => exact .inl ⟨.output, rfl⟩
  | input => exact .inl ⟨.input, rfl⟩
  | loopStart => exact .inr ⟨.forward, rfl⟩
  | loopEnd => exact .inr ⟨.backward, rfl⟩

namespace Program

theorem Moves.exists_get? {p : Program} {c c' : Point} (h : p.Moves c c') :
    ∃ i, p.get? c.position = some i := by
  cases h with
  | act hget _ => exact ⟨_, hget⟩
  | stay hget _ => exact ⟨_, hget⟩
  | jump hget _ _ => exact ⟨_, hget⟩

/-- A step has one result. -/
theorem Moves.unique {p : Program} {c c' c'' : Point} (h : p.Moves c c') (h' : p.Moves c c'') :
    c' = c'' := by
  cases h with
  | @act position a s s' hget hact =>
      cases h' with
      | act hget' hact' =>
          obtain rfl := Action.instruction_injective (Option.some.inj (hget.symm.trans hget'))
          rw [hact.unique hact']
      | @stay _ d _ hget' _ =>
          exact absurd (Option.some.inj (hget.symm.trans hget')) (a.instruction_ne_bracket d)
      | @jump _ _ d _ hget' _ _ =>
          exact absurd (Option.some.inj (hget.symm.trans hget')) (a.instruction_ne_bracket d)
  | @stay position d s hget hstays =>
      cases h' with
      | @act _ a _ _ hget' _ =>
          exact absurd (Option.some.inj (hget'.symm.trans hget)) (a.instruction_ne_bracket d)
      | stay => rfl
      | jump hget' hjumps _ =>
          obtain rfl := Direction.bracket_injective (Option.some.inj (hget.symm.trans hget'))
          cases hstays.symm.trans hjumps
  | @jump position target d s hget hjumps hpair =>
      cases h' with
      | @act _ a _ _ hget' _ =>
          exact absurd (Option.some.inj (hget'.symm.trans hget)) (a.instruction_ne_bracket d)
      | stay hget' hstays =>
          obtain rfl := Direction.bracket_injective (Option.some.inj (hget.symm.trans hget'))
          cases hstays.symm.trans hjumps
      | jump _ _ hpair' => rw [hpair.unique hpair']

/-! ## Runs to the end -/

/-- A run of `n` steps that ends past the last instruction, with the final store. -/
inductive HaltsIn (p : Program) : Nat → Point → Store → Prop where
  | done {position : Nat} {s : Store} (hget : p.get? position = none) :
      HaltsIn p 0 ⟨position, s⟩ s
  | next {n : Nat} {c c' : Point} {final : Store} (hmove : p.Moves c c')
      (hrest : HaltsIn p n c' final) : HaltsIn p (n + 1) c final

/-- A run that can make a step makes that step. -/
theorem HaltsIn.uncons {p : Program} {n : Nat} {c c' : Point} {final : Store}
    (h : p.HaltsIn n c final) (hmove : p.Moves c c') :
    ∃ m, n = m + 1 ∧ p.HaltsIn m c' final := by
  cases h with
  | done hget =>
      obtain ⟨i, hsome⟩ := hmove.exists_get?
      cases hget.symm.trans hsome
  | @next m _ c'' _ hmove' hrest =>
      obtain rfl := hmove'.unique hmove
      exact ⟨m, rfl, hrest⟩

theorem HaltsIn.eq_of_get?_eq_none {p : Program} {n position : Nat} {s final : Store}
    (h : p.HaltsIn n ⟨position, s⟩ final) (hget : p.get? position = none) : final = s := by
  cases h with
  | done => rfl
  | next hmove =>
      obtain ⟨i, hsome⟩ := hmove.exists_get?
      cases hget.symm.trans hsome

/-- The two brackets of a loop do the same thing: with a zero cell both lead past the loop, and
otherwise both lead into its body. -/
theorem Joins.exists_common_move {p : Program} {a b : Nat} (h : p.Joins a b) (s : Store) :
    ∃ c, p.Moves ⟨a, s⟩ c ∧ p.Moves ⟨b, s⟩ c := by
  by_cases hread : s.tape.read = 0
  · refine ⟨⟨b + 1, s⟩, ?_, ?_⟩
    · exact .jump (d := .forward) h.start_eq (by simp [Direction.jumps, hread]) (.inl h)
    · exact .stay (d := .backward) h.end_eq (by simp [Direction.jumps, hread])
  · refine ⟨⟨a + 1, s⟩, ?_, ?_⟩
    · exact .stay (d := .forward) h.start_eq (by simp [Direction.jumps, hread])
    · exact .jump (d := .backward) h.end_eq (by simp [Direction.jumps, hread]) (.inr h)

theorem Joins.haltsIn_iff {p : Program} {a b : Nat} (h : p.Joins a b) {n : Nat}
    {s final : Store} : p.HaltsIn n ⟨b, s⟩ final ↔ p.HaltsIn n ⟨a, s⟩ final := by
  obtain ⟨c, hstart, hend⟩ := h.exists_common_move s
  constructor
  · intro hrun
    obtain ⟨m, rfl, hrest⟩ := hrun.uncons hend
    exact .next hstart hrest
  · intro hrun
    obtain ⟨m, rfl, hrest⟩ := hrun.uncons hstart
    exact .next hend hrest

end Program

/-! ## Nested brackets always move -/

/-- In a balanced stretch of a program every bracket has a partner in that stretch. -/
theorem Balanced.exists_paired {p : Program} {l : List Instruction} (h : Balanced l) :
    ∀ (pre post : List Instruction), p.toList = pre ++ (l ++ post) →
      ∀ (position : Nat) (d : Direction), p.get? position = some d.bracket →
        pre.length ≤ position → position < pre.length + l.length →
        ∃ partner, p.Paired position partner ∧
          pre.length ≤ partner ∧ partner < pre.length + l.length := by
  induction h with
  | nil =>
      intro pre post _ position d _ hfrom hto
      exact absurd hto (by simpa using hfrom)
  | @plain i rest hstart hend _ ih =>
      intro pre post hcode position d hget hfrom hto
      by_cases hfirst : position = pre.length
      · subst hfirst
        obtain rfl := Option.some.inj ((Program.get?_of_toList_eq hcode).symm.trans hget)
        cases d with
        | forward => exact absurd rfl hstart
        | backward => exact absurd rfl hend
      · have hnext : p.toList = (pre ++ [i]) ++ (rest ++ post) := by simpa using hcode
        have hlen : (pre ++ [i]).length = pre.length + 1 := by simp
        simp only [List.length_cons] at hto ⊢
        obtain ⟨partner, hpaired, hlow, hhigh⟩ :=
          ih _ _ hnext position d hget (by omega) (by omega)
        exact ⟨partner, hpaired, by omega, by omega⟩
  | @loop body rest hbody _ ihbody ihrest =>
      intro pre post hcode position d hget hfrom hto
      have hloop : p.toList = pre ++ .loopStart :: (body ++ .loopEnd :: (rest ++ post)) := by
        simpa using hcode
      have hjoins := Program.joins_of_toList_eq hloop hbody
      simp only [List.length_append, List.length_cons] at hto ⊢
      -- The two brackets of the loop have each other; the others are in the body or after it.
      by_cases hstart : position = pre.length
      · rw [hstart]
        exact ⟨_, .inl hjoins, by omega, by omega⟩
      by_cases hend : position = pre.length + 1 + body.length
      · rw [hend]
        exact ⟨_, .inr hjoins, by omega, by omega⟩
      by_cases hinside : position < pre.length + 1 + body.length
      · have hinner : p.toList = (pre ++ [.loopStart]) ++ (body ++ .loopEnd :: (rest ++ post)) := by
          simpa using hcode
        have hlen : (pre ++ [Instruction.loopStart]).length = pre.length + 1 := by simp
        obtain ⟨partner, hpaired, hlow, hhigh⟩ :=
          ihbody _ _ hinner position d hget (by omega) (by omega)
        exact ⟨partner, hpaired, by omega, by omega⟩
      · have houter : p.toList =
            (pre ++ .loopStart :: (body ++ [.loopEnd])) ++ (rest ++ post) := by
          simpa using hcode
        have hlen : (pre ++ Instruction.loopStart :: (body ++ [.loopEnd])).length =
            pre.length + 1 + body.length + 1 := by
          simp only [List.length_append, List.length_cons, List.length_nil]
          omega
        obtain ⟨partner, hpaired, hlow, hhigh⟩ :=
          ihrest _ _ houter position d hget (by omega) (by omega)
        exact ⟨partner, hpaired, by omega, by omega⟩

/-- The partner of a bracket between two partners is between them too. -/
theorem Program.Joins.paired_between {p : Program} {a b position partner : Nat} (h : p.Joins a b)
    (hafter : a < position) (hbefore : position < b) (hpaired : p.Paired position partner) :
    a < partner ∧ partner < b := by
  obtain ⟨d, hget⟩ : ∃ d : Direction, p.get? position = some d.bracket := by
    rcases hpaired with hjoins | hjoins
    · exact ⟨.forward, hjoins.start_eq⟩
    · exact ⟨.backward, hjoins.end_eq⟩
  obtain ⟨pre, body, post, hcode, hbody, rfl, rfl⟩ := Program.joins_iff.mp h
  have hinner : p.toList = (pre ++ [.loopStart]) ++ (body ++ .loopEnd :: post) := by
    simpa using hcode
  have hlen : (pre ++ [Instruction.loopStart]).length = pre.length + 1 := by simp
  obtain ⟨partner', hpaired', hlow, hhigh⟩ :=
    hbody.exists_paired _ _ hinner position d hget (by omega) (by omega)
  rw [hpaired.unique hpaired']
  exact ⟨by omega, by omega⟩

/-- If the brackets of a program are nested, a run of it can go on until it is past the end. -/
theorem Program.exists_move {p : Program} (hbalanced : Balanced p.toList) {c : Point}
    (hget : p.get? c.position ≠ none) : ∃ c', p.Moves c c' := by
  obtain ⟨i, hsome⟩ := Option.ne_none_iff_exists'.mp hget
  obtain ⟨a, rfl⟩ | ⟨d, rfl⟩ := i.action_or_bracket
  · obtain ⟨s', hact⟩ := Acts.total a c.store
    exact ⟨_, .act hsome hact⟩
  · cases hjumps : d.jumps c.store.tape.read with
    | false => exact ⟨_, .stay hsome hjumps⟩
    | true =>
        have hlt : c.position < p.toList.length := by
          rw [Program.length_toList]
          exact Program.lt_length_of_get? hsome
        obtain ⟨partner, hpair, -, -⟩ := hbalanced.exists_paired [] [] (by simp) c.position d hsome
          (Nat.zero_le _) (by simpa using hlt)
        exact ⟨_, .jump hsome hjumps hpair⟩

/-! ## The evaluation and the run -/

namespace Command

open Program

/-- Where the parts of a loop stand in a program: the brackets belong together, and the program
can be cut before the body and after the end bracket. -/
theorem loop_placed {p : Program} {body rest : List Command} {pre post : List Instruction}
    (hcode : p.toList = pre ++ (codes (.loop body :: rest) ++ post)) :
    p.Joins pre.length (pre.length + 1 + (codes body).length) ∧
    p.toList = (pre ++ [.loopStart]) ++ (codes body ++ .loopEnd :: (codes rest ++ post)) ∧
    p.toList = (pre ++ .loopStart :: (codes body ++ [.loopEnd])) ++ (codes rest ++ post) := by
  rw [codes_loop_cons] at hcode
  have hloop : p.toList =
      pre ++ .loopStart :: (codes body ++ .loopEnd :: (codes rest ++ post)) := by
    simpa using hcode
  exact ⟨joins_of_toList_eq hloop (balanced_codes body), by simpa using hcode,
    by simpa using hcode⟩

theorem length_before_rest (pre : List Instruction) (body : List Command) :
    (pre ++ Instruction.loopStart :: (codes body ++ [.loopEnd])).length =
      pre.length + 1 + (codes body).length + 1 := by
  simp only [List.length_append, List.length_cons, List.length_nil]
  omega

/-- The position after a loop and what follows it, counted from either side of the loop. -/
theorem length_through_loop (pre : List Instruction) (body rest : List Command) :
    pre.length + (codes (.loop body :: rest)).length =
      (pre ++ Instruction.loopStart :: (codes body ++ [.loopEnd])).length +
        (codes rest).length := by
  rw [length_before_rest, codes_loop_cons]
  simp only [List.length_cons, List.length_append]
  omega

/-- Where an evaluation ends the flat run goes on: if it halts from there, it halts from the
start of the commands.  The induction is on the evaluation, for all places the commands can have
in a program. -/
theorem haltsIn_of_evaluates {p : Program} {commands : List Command} {s s' final : Store}
    (h : Evaluates commands s s') :
    ∀ (pre post : List Instruction), p.toList = pre ++ (codes commands ++ post) →
      (∃ m, p.HaltsIn m ⟨pre.length + (codes commands).length, s'⟩ final) →
      ∃ n, p.HaltsIn n ⟨pre.length, s⟩ final := by
  induction h with
  | nil s =>
      intro pre post _ hrun
      exact hrun
  | @act a rest s s' _ hact _ ih =>
      intro pre post hcode hrun
      rw [codes_act_cons, List.cons_append] at hcode
      have hnext : p.toList = (pre ++ [a.instruction]) ++ (codes rest ++ post) := by
        simpa using hcode
      have hlen : (pre ++ [a.instruction]).length = pre.length + 1 := by simp
      rw [codes_act_cons, List.length_cons, Nat.add_comm _ 1, ← Nat.add_assoc, ← hlen] at hrun
      obtain ⟨n, hn⟩ := ih _ post hnext hrun
      rw [hlen] at hn
      exact ⟨n + 1, .next (.act (get?_of_toList_eq hcode) hact) hn⟩
  | @skip body rest s _ hzero _ ih =>
      intro pre post hcode hrun
      obtain ⟨hjoins, -, hnext⟩ := loop_placed hcode
      rw [length_through_loop] at hrun
      obtain ⟨n, hn⟩ := ih _ post hnext hrun
      rw [length_before_rest] at hn
      have hmove : p.Moves ⟨pre.length, s⟩ ⟨pre.length + 1 + (codes body).length + 1, s⟩ :=
        .jump (d := .forward) hjoins.start_eq (by simp [Direction.jumps, hzero]) (.inl hjoins)
      exact ⟨n + 1, .next hmove hn⟩
  | @turn body rest s s' _ hnonzero _ _ ihbody ihagain =>
      intro pre post hcode hrun
      obtain ⟨hjoins, hinner, -⟩ := loop_placed hcode
      obtain ⟨k, hk⟩ := ihagain pre post hcode hrun
      have hlen : (pre ++ [Instruction.loopStart]).length = pre.length + 1 := by simp
      -- After the body the run is at the end bracket, which does what the start bracket would do.
      have hend := hjoins.haltsIn_iff.mpr hk
      rw [← hlen] at hend
      obtain ⟨n, hn⟩ := ihbody _ _ hinner ⟨k, hend⟩
      rw [hlen] at hn
      have hmove : p.Moves ⟨pre.length, s⟩ ⟨pre.length + 1, s⟩ :=
        .stay (d := .forward) hjoins.start_eq (by simp [Direction.jumps, hnonzero])
      exact ⟨n + 1, .next hmove hn⟩

/-- A flat run that halts has evaluated the commands it starts with.  The induction is on the
length of the run: a loop is entered with a shorter run, and comes back to its start bracket with
a run that is shorter still. -/
theorem evaluates_of_haltsIn {p : Program} {final : Store} :
    ∀ (n : Nat) (commands : List Command) (s : Store) (pre post : List Instruction),
      p.toList = pre ++ (codes commands ++ post) → p.HaltsIn n ⟨pre.length, s⟩ final →
      ∃ m s', m ≤ n ∧ Evaluates commands s s' ∧
        p.HaltsIn m ⟨pre.length + (codes commands).length, s'⟩ final := by
  intro n
  induction n using Nat.strongRecOn with
  | ind n ih =>
      intro commands s pre post hcode hrun
      match commands, hcode with
      | [], _ => exact ⟨n, s, Nat.le_refl n, .nil s, hrun⟩
      | .act a :: rest, hcode =>
          rw [codes_act_cons, List.cons_append] at hcode
          have hnext : p.toList = (pre ++ [a.instruction]) ++ (codes rest ++ post) := by
            simpa using hcode
          have hlen : (pre ++ [a.instruction]).length = pre.length + 1 := by simp
          obtain ⟨s', hact⟩ := Acts.total a s
          obtain ⟨m, rfl, hm⟩ := hrun.uncons (.act (get?_of_toList_eq hcode) hact)
          rw [← hlen] at hm
          obtain ⟨k, s'', hk, hrest, hlast⟩ := ih m (by omega) rest s' _ post hnext hm
          rw [hlen, Nat.add_assoc, Nat.add_comm 1] at hlast
          exact ⟨k, s'', by omega, .act hact hrest, hlast⟩
      | .loop body :: rest, hcode =>
          obtain ⟨hjoins, hinner, hnext⟩ := loop_placed hcode
          by_cases hread : s.tape.read = 0
          · have hmove : p.Moves ⟨pre.length, s⟩ ⟨pre.length + 1 + (codes body).length + 1, s⟩ :=
              .jump (d := .forward) hjoins.start_eq (by simp [Direction.jumps, hread])
                (.inl hjoins)
            obtain ⟨m, rfl, hm⟩ := hrun.uncons hmove
            rw [← length_before_rest] at hm
            obtain ⟨k, s', hk, hrest, hlast⟩ := ih m (by omega) rest s _ post hnext hm
            rw [← length_through_loop] at hlast
            exact ⟨k, s', by omega, .skip hread hrest, hlast⟩
          · have hmove : p.Moves ⟨pre.length, s⟩ ⟨pre.length + 1, s⟩ :=
              .stay (d := .forward) hjoins.start_eq (by simp [Direction.jumps, hread])
            have hlen : (pre ++ [Instruction.loopStart]).length = pre.length + 1 := by simp
            obtain ⟨m, rfl, hm⟩ := hrun.uncons hmove
            rw [← hlen] at hm
            obtain ⟨k, s', hk, hbody, hend⟩ := ih m (by omega) body s _ _ hinner hm
            rw [hlen] at hend
            -- What is left of the run is a run from the start bracket as well.
            have hagain := hjoins.haltsIn_iff.mp hend
            obtain ⟨j, s'', hj, hloop, hlast⟩ :=
              ih k (by omega) (.loop body :: rest) s' pre post hcode hagain
            exact ⟨j, s'', by omega, .turn hread hbody hloop, hlast⟩

/-- Written flat, a structured program halts in the stores in which its evaluation ends. -/
theorem haltsIn_iff_evaluates {p : Program} {commands : List Command}
    (hcode : p.toList = codes commands) {s final : Store} :
    (∃ n, p.HaltsIn n ⟨0, s⟩ final) ↔ Evaluates commands s final := by
  have hplace : p.toList = [] ++ (codes commands ++ []) := by simpa using hcode
  have hpast : p.get? (codes commands).length = none := by
    rw [get?_eq_getElem?, hcode]
    simp
  constructor
  · rintro ⟨n, hrun⟩
    obtain ⟨m, s', -, heval, hlast⟩ := evaluates_of_haltsIn n commands s [] [] hplace hrun
    rw [List.length_nil, Nat.zero_add] at hlast
    obtain rfl := hlast.eq_of_get?_eq_none hpast
    exact heval
  · intro heval
    refine haltsIn_of_evaluates heval [] [] hplace ⟨0, ?_⟩
    rw [List.length_nil, Nat.zero_add]
    exact .done hpast

end Command

end TapeConsole
