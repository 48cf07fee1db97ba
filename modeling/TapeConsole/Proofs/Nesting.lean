import TapeConsole.Bracket
set_option autoImplicit false

/-!
# Nested brackets

The search for a partner counts the depth of nesting.  This file says what it
finds without counting.  `Balanced` is the grammar of nested brackets, and
`Program.Joins` pairs a start bracket with the end bracket that has a balanced
list between them.  The two main results,

    Program.partner_forward_eq_ok_iff
    Program.partner_backward_eq_ok_iff

say that a search from either end finds exactly the other end of such a pair,
in every program, also one with brackets to spare.

A search backward is a search forward through the list read from right to left
with the brackets exchanged (`distance?_map_mirror`), so the argument about the
depth is made once, for the forward search.
-/

namespace TapeConsole

open Direction

/-! ## The grammar -/

/-- The lists of instructions whose brackets are nested. -/
inductive Balanced : List Instruction → Prop where
  /-- Nothing at all. -/
  | nil : Balanced []
  /-- An instruction that is no bracket, before a balanced list. -/
  | plain {i : Instruction} {rest : List Instruction} (hstart : i ≠ .loopStart)
      (hend : i ≠ .loopEnd) (hrest : Balanced rest) : Balanced (i :: rest)
  /-- A loop around a balanced list, before another one. -/
  | loop {body rest : List Instruction} (hbody : Balanced body) (hrest : Balanced rest) :
      Balanced (.loopStart :: (body ++ .loopEnd :: rest))

theorem Instruction.nesting_eq_zero {i : Instruction} (hstart : i ≠ .loopStart)
    (hend : i ≠ .loopEnd) : i.nesting = 0 := by
  cases i with
  | loopStart => exact absurd rfl hstart
  | loopEnd => exact absurd rfl hend
  | _ => rfl

/-- Balanced lists can be put one after the other. -/
theorem Balanced.append {first second : List Instruction} (hfirst : Balanced first)
    (hsecond : Balanced second) : Balanced (first ++ second) := by
  induction hfirst with
  | nil => exact hsecond
  | plain hstart hend _ ih => exact .plain hstart hend ih
  | loop hbody _ _ ihrest =>
      have h := Balanced.loop hbody ihrest
      simpa using h

/-! ## The forward search -/

theorem distance?_cons (target i : Instruction) (depth : Int) (walked : Nat)
    (rest : List Instruction) :
    distance? target depth walked (i :: rest) =
      if depth + i.nesting = 0 ∧ i = target then some walked
      else distance? target (depth + i.nesting) (walked + 1) rest := rfl

/-- Inside a loop the search walks over a balanced list without stopping. -/
theorem distance?_append_of_balanced {body : List Instruction} (hbody : Balanced body) :
    ∀ {depth : Int} (walked : Nat) (rest : List Instruction), 0 < depth →
      distance? .loopEnd depth walked (body ++ rest) =
        distance? .loopEnd depth (walked + body.length) rest := by
  induction hbody with
  | nil => intro depth walked rest _; rfl
  | @plain i inner hstart hend _ ih =>
      intro depth walked rest hdepth
      rw [List.cons_append, distance?_cons, Instruction.nesting_eq_zero hstart hend,
        if_neg (fun h => hend h.2), Int.add_zero, ih _ _ hdepth]
      simp only [List.length_cons, Nat.add_assoc, Nat.add_comm 1]
  | @loop inner after _ _ ihinner ihafter =>
      intro depth walked rest hdepth
      -- The start bracket leads one level down, and the end bracket back up.
      have hdown : distance? .loopEnd depth walked
          (.loopStart :: ((inner ++ .loopEnd :: after) ++ rest)) =
          distance? .loopEnd (depth + 1) (walked + 1)
            (inner ++ .loopEnd :: (after ++ rest)) := by
        rw [distance?_cons, if_neg (fun h => by simp at h)]
        simp [Instruction.nesting]
      have hup : distance? .loopEnd (depth + 1) (walked + 1 + inner.length)
          (.loopEnd :: (after ++ rest)) =
          distance? .loopEnd depth (walked + 1 + inner.length + 1) (after ++ rest) := by
        rw [distance?_cons, if_neg (fun h => by simp only [Instruction.nesting] at h; omega)]
        congr 1
        simp only [Instruction.nesting]
        omega
      rw [List.cons_append, hdown, ihinner _ _ (by omega), hup, ihafter _ _ hdepth]
      congr 1
      simp only [List.length_cons, List.length_append]
      omega

/-- A search that succeeds below level zero has walked over a balanced list to an end bracket.
If that bracket leads to level zero the search has ended there, and otherwise it goes on one
level up. -/
theorem exists_balanced_of_distance? :
    ∀ (n : Nat) (l : List Instruction) (depth : Int) (walked found : Nat), l.length ≤ n →
      0 < depth → distance? .loopEnd depth walked l = some found →
      ∃ body rest : List Instruction, l = body ++ .loopEnd :: rest ∧ Balanced body ∧
        ((depth = 1 ∧ found = walked + body.length) ∨
          (1 < depth ∧
            distance? .loopEnd (depth - 1) (walked + body.length + 1) rest = some found)) := by
  intro n
  -- The induction is on the length, because a loop is followed by a search of what comes after it.
  induction n with
  | zero =>
      intro l depth walked found hlen _ hfound
      have hnil : l = [] := List.length_eq_zero_iff.mp (Nat.le_zero.mp hlen)
      subst hnil
      simp [distance?] at hfound
  | succ n ih =>
      intro l depth walked found hlen hdepth hfound
      cases l with
      | nil => simp [distance?] at hfound
      | cons i rest =>
          have hrest : rest.length ≤ n := by simpa using hlen
          rw [distance?_cons] at hfound
          by_cases hend : i = .loopEnd
          · subst hend
            refine ⟨[], rest, rfl, .nil, ?_⟩
            simp only [Instruction.nesting] at hfound
            by_cases hone : depth = 1
            · subst hone
              simp at hfound
              exact .inl ⟨rfl, by simpa using hfound.symm⟩
            · rw [if_neg (fun h => by omega)] at hfound
              exact .inr ⟨by omega, by simpa [Int.sub_eq_add_neg] using hfound⟩
          · rw [if_neg (fun h => hend h.2)] at hfound
            by_cases hstart : i = .loopStart
            · subst hstart
              simp only [Instruction.nesting] at hfound
              obtain ⟨inner, middle, rfl, hinner, ⟨hone, -⟩ | ⟨-, hmiddle⟩⟩ :=
                ih rest (depth + 1) (walked + 1) found hrest (by omega) hfound
              · omega
              · rw [Int.add_sub_cancel] at hmiddle
                have hshort : middle.length ≤ n := by
                  simp only [List.length_append, List.length_cons] at hrest
                  omega
                obtain ⟨body, last, rfl, hbody, hcases⟩ :=
                  ih middle depth _ found hshort hdepth hmiddle
                refine ⟨.loopStart :: (inner ++ .loopEnd :: body), last, by simp,
                  .loop hinner hbody, ?_⟩
                have hwalked : walked + (Instruction.loopStart ::
                    (inner ++ .loopEnd :: body)).length =
                    walked + 1 + inner.length + 1 + body.length := by
                  simp only [List.length_cons, List.length_append]
                  omega
                rw [hwalked]
                exact hcases
            · rw [Instruction.nesting_eq_zero hstart hend, Int.add_zero] at hfound
              obtain ⟨body, last, rfl, hbody, hcases⟩ :=
                ih rest depth (walked + 1) found hrest hdepth hfound
              refine ⟨i :: body, last, rfl, .plain hstart hend hbody, ?_⟩
              have hwalked : walked + (i :: body).length = walked + 1 + body.length := by
                simp only [List.length_cons]
                omega
              rw [hwalked]
              exact hcases

/-- From a start bracket the search finds the end bracket after a balanced list. -/
theorem distance?_loopStart_eq_some_iff {l : List Instruction} {found : Nat} :
    distance? .loopEnd 0 0 (.loopStart :: l) = some found ↔
      ∃ body rest : List Instruction, l = body ++ .loopEnd :: rest ∧ Balanced body ∧
        found = body.length + 1 := by
  have hstep : distance? .loopEnd 0 0 (.loopStart :: l) = distance? .loopEnd 1 1 l := by
    rw [distance?_cons, if_neg (fun h => by simp at h)]
    rfl
  rw [hstep]
  constructor
  · intro hfound
    obtain ⟨body, rest, hl, hbody, ⟨-, hwalked⟩ | ⟨hlt, -⟩⟩ :=
      exists_balanced_of_distance? l.length l 1 1 found (Nat.le_refl _) (by omega) hfound
    · exact ⟨body, rest, hl, hbody, by omega⟩
    · omega
  · rintro ⟨body, rest, rfl, hbody, rfl⟩
    rw [distance?_append_of_balanced hbody _ _ (by omega), distance?_cons]
    simp [Instruction.nesting, Nat.add_comm]

/-! ## Reading from right to left -/

/-- The same instruction read from right to left: brackets are exchanged. -/
def Instruction.mirror : Instruction → Instruction
  | .loopStart => .loopEnd
  | .loopEnd => .loopStart
  | i => i

@[simp] theorem Instruction.mirror_mirror (i : Instruction) : i.mirror.mirror = i := by
  cases i <;> rfl

@[simp] theorem Instruction.nesting_mirror (i : Instruction) : i.mirror.nesting = -i.nesting := by
  cases i <;> rfl

theorem Instruction.mirror_eq_iff {i j : Instruction} : i.mirror = j ↔ i = j.mirror := by
  constructor
  · rintro rfl
    exact (mirror_mirror i).symm
  · rintro rfl
    exact mirror_mirror j

/-- Exchanging the brackets exchanges the direction of the count. -/
theorem distance?_map_mirror (target : Instruction) :
    ∀ (l : List Instruction) (depth : Int) (walked : Nat),
      distance? target.mirror (-depth) walked (l.map Instruction.mirror) =
        distance? target depth walked l := by
  intro l
  induction l with
  | nil => intro depth walked; rfl
  | cons i rest ih =>
      intro depth walked
      have hsum : -depth + i.mirror.nesting = -(depth + i.nesting) := by
        rw [Instruction.nesting_mirror]
        omega
      have htest : (-(depth + i.nesting) = 0 ∧ i.mirror = target.mirror) ↔
          (depth + i.nesting = 0 ∧ i = target) := by
        rw [Instruction.mirror_eq_iff, Instruction.mirror_mirror]
        constructor <;> rintro ⟨hzero, htarget⟩ <;> exact ⟨by omega, htarget⟩
      rw [List.map_cons, distance?_cons, distance?_cons, hsum, ih]
      simp only [htest]

/-- The list read from right to left. -/
def mirrored (l : List Instruction) : List Instruction := l.reverse.map Instruction.mirror

@[simp] theorem mirrored_mirrored (l : List Instruction) : mirrored (mirrored l) = l := by
  unfold mirrored
  rw [← List.map_reverse, List.reverse_reverse, List.map_map]
  have hid : Instruction.mirror ∘ Instruction.mirror = id := by
    funext i
    exact Instruction.mirror_mirror i
  rw [hid, List.map_id]

@[simp] theorem length_mirrored (l : List Instruction) : (mirrored l).length = l.length := by
  simp [mirrored]

theorem mirrored_append (first second : List Instruction) :
    mirrored (first ++ second) = mirrored second ++ mirrored first := by
  simp [mirrored]

theorem mirrored_cons (i : Instruction) (rest : List Instruction) :
    mirrored (i :: rest) = mirrored rest ++ [i.mirror] := by
  simp [mirrored]

/-- A balanced list is balanced from right to left. -/
theorem Balanced.mirrored {l : List Instruction} (h : Balanced l) : Balanced (mirrored l) := by
  induction h with
  | nil => exact .nil
  | @plain i rest hstart hend _ ih =>
      rw [mirrored_cons]
      refine ih.append (.plain ?_ ?_ .nil)
      · rw [Ne, Instruction.mirror_eq_iff]
        exact hend
      · rw [Ne, Instruction.mirror_eq_iff]
        exact hstart
  | @loop body rest _ _ ihbody ihrest =>
      have hloop : Balanced (.loopStart :: (TapeConsole.mirrored body ++ .loopEnd :: [])) :=
        .loop ihbody .nil
      have heq : TapeConsole.mirrored (.loopStart :: (body ++ .loopEnd :: rest)) =
          TapeConsole.mirrored rest ++
            .loopStart :: (TapeConsole.mirrored body ++ .loopEnd :: []) := by
        rw [mirrored_cons, mirrored_append, mirrored_cons]
        simp [Instruction.mirror]
      rw [heq]
      exact ihrest.append hloop

/-! ## Pairs of brackets -/

namespace Program

/-- The brackets at `a` and `b` belong together: what stands between them is balanced. -/
structure Joins (p : Program) (a b : Nat) : Prop where
  /-- The start bracket comes first. -/
  lt : a < b
  /-- At `a` stands a start bracket. -/
  start_eq : p.get? a = some .loopStart
  /-- At `b` stands an end bracket. -/
  end_eq : p.get? b = some .loopEnd
  /-- What stands between them is balanced. -/
  between : Balanced ((p.toList.take b).drop (a + 1))

/-- The instruction after the first part of a program. -/
theorem get?_of_toList_eq {p : Program} {pre post : List Instruction} {i : Instruction}
    (h : p.toList = pre ++ i :: post) : p.get? pre.length = some i := by
  rw [get?_eq_getElem?, h]
  simp

/-- A position of a program splits it into what comes before and what comes after. -/
theorem exists_split_of_get? {p : Program} {a : Nat} {i : Instruction} (h : p.get? a = some i) :
    ∃ pre post : List Instruction, p.toList = pre ++ i :: post ∧ pre.length = a := by
  rw [get?_eq_getElem?] at h
  obtain ⟨hlt, hget⟩ := List.getElem?_eq_some_iff.mp h
  refine ⟨p.toList.take a, p.toList.drop (a + 1), ?_, ?_⟩
  · rw [← hget, List.getElem_cons_drop, List.take_append_drop]
  · rw [List.length_take]
    omega

/-- A position with an instruction is inside the program. -/
theorem lt_length_of_get? {p : Program} {a : Nat} {i : Instruction} (h : p.get? a = some i) :
    a < p.length := by
  rw [get?_eq_getElem?] at h
  obtain ⟨hlt, -⟩ := List.getElem?_eq_some_iff.mp h
  rwa [length_toList] at hlt

theorem exists_get?_of_lt_length {p : Program} {a : Nat} (h : a < p.length) :
    ∃ i, p.get? a = some i := by
  rw [← length_toList] at h
  rw [get?_eq_getElem?]
  exact ⟨_, List.getElem?_eq_getElem h⟩

theorem joins_of_toList_eq {p : Program} {pre body post : List Instruction}
    (h : p.toList = pre ++ .loopStart :: (body ++ .loopEnd :: post)) (hbody : Balanced body) :
    p.Joins pre.length (pre.length + 1 + body.length) where
  lt := by omega
  start_eq := get?_of_toList_eq h
  end_eq := by
    have hend : p.toList = (pre ++ .loopStart :: body) ++ .loopEnd :: post := by simpa using h
    have hget := get?_of_toList_eq hend
    rw [List.length_append, List.length_cons] at hget
    rwa [show pre.length + 1 + body.length = pre.length + (body.length + 1) by omega]
  between := by
    have hbetween : (p.toList.take (pre.length + 1 + body.length)).drop (pre.length + 1) =
        body := by
      have hsplit : p.toList = (pre ++ [.loopStart]) ++ (body ++ .loopEnd :: post) := by
        simpa using h
      have hlen : (pre ++ [Instruction.loopStart]).length = pre.length + 1 := by simp
      rw [hsplit, ← hlen, List.take_length_add_append, List.drop_left, List.take_left]
    rw [hbetween]
    exact hbody

/-- Two brackets belong together exactly if the program is a balanced list between them, with
something before and something after. -/
theorem joins_iff {p : Program} {a b : Nat} :
    p.Joins a b ↔
      ∃ pre body post : List Instruction,
        p.toList = pre ++ .loopStart :: (body ++ .loopEnd :: post) ∧ Balanced body ∧
          a = pre.length ∧ b = pre.length + 1 + body.length := by
  constructor
  · intro h
    obtain ⟨before, post, hsplit, hlen⟩ := exists_split_of_get? h.end_eq
    have hbefore : p.toList.take b = before := by
      rw [hsplit, ← hlen, List.take_left]
    have hbetween := h.between
    have hstart := h.start_eq
    have hlt := h.lt
    rw [hbefore] at hbetween
    rw [get?_eq_getElem?, hsplit, List.getElem?_append_left (by omega)] at hstart
    obtain ⟨ha, hget⟩ := List.getElem?_eq_some_iff.mp hstart
    refine ⟨before.take a, before.drop (a + 1), post, ?_, hbetween, ?_, ?_⟩
    · rw [hsplit, ← hget, ← List.cons_append, List.getElem_cons_drop, ← List.append_assoc,
        List.take_append_drop]
    · rw [List.length_take]
      omega
    · rw [List.length_take, List.length_drop]
      omega
  · rintro ⟨pre, body, post, h, hbody, rfl, rfl⟩
    exact joins_of_toList_eq h hbody

/-! ## What a search finds -/

theorem partner_forward_eq_ok {p : Program} {a b : Nat} :
    p.partner a .forward = .ok b ↔
      ∃ n, distance? .loopEnd 0 0 (p.toList.drop a) = some n ∧ a + n = b := by
  unfold partner
  simp only [target]
  cases distance? .loopEnd 0 0 (p.toList.drop a) <;> simp

theorem partner_backward_eq_ok {p : Program} {a b : Nat} (h : b < p.length) :
    p.partner b .backward = .ok a ↔
      ∃ n, distance? .loopStart 0 0 (p.toList.take (b + 1)).reverse = some n ∧ b - n = a := by
  unfold partner
  simp only [target, if_pos h]
  cases distance? .loopStart 0 0 (p.toList.take (b + 1)).reverse <;> simp

/-- The search from a start bracket finds the end bracket it belongs to. -/
theorem partner_forward_eq_ok_iff {p : Program} {a b : Nat} (h : p.get? a = some .loopStart) :
    p.partner a .forward = .ok b ↔ p.Joins a b := by
  obtain ⟨pre, after, hsplit, rfl⟩ := exists_split_of_get? h
  rw [partner_forward_eq_ok, hsplit, List.drop_left]
  simp only [distance?_loopStart_eq_some_iff]
  constructor
  · rintro ⟨n, ⟨body, post, rfl, hbody, rfl⟩, rfl⟩
    have hjoins := joins_of_toList_eq hsplit hbody
    rwa [Nat.add_assoc, Nat.add_comm 1] at hjoins
  · intro hjoins
    obtain ⟨pre', body, post, hsplit', hbody, hpre, rfl⟩ := joins_iff.mp hjoins
    rw [hsplit] at hsplit'
    obtain ⟨rfl, htail⟩ := List.append_inj hsplit' hpre
    obtain ⟨-, rfl⟩ := List.cons.inj htail
    exact ⟨body.length + 1, ⟨body, post, rfl, hbody, rfl⟩, by omega⟩

/-- The search from an end bracket finds the start bracket it belongs to. -/
theorem partner_backward_eq_ok_iff {p : Program} {a b : Nat} (h : p.get? b = some .loopEnd) :
    p.partner b .backward = .ok a ↔ p.Joins a b := by
  have hlt : b < p.length := lt_length_of_get? h
  obtain ⟨before, post, hsplit, rfl⟩ := exists_split_of_get? h
  have htake : (p.toList.take (before.length + 1)).reverse = .loopEnd :: before.reverse := by
    rw [hsplit, List.take_length_add_append]
    simp
  -- Read from right to left, this is the search from a start bracket.
  have hmirror : distance? .loopStart 0 0 (.loopEnd :: before.reverse) =
      distance? .loopEnd 0 0 (.loopStart :: mirrored before) :=
    (distance?_map_mirror .loopStart (.loopEnd :: before.reverse) 0 0).symm
  rw [partner_backward_eq_ok hlt, htake, hmirror]
  simp only [distance?_loopStart_eq_some_iff]
  constructor
  · rintro ⟨n, ⟨inner, rest, hrest, hinner, rfl⟩, rfl⟩
    have hbefore : before = mirrored rest ++ .loopStart :: mirrored inner := by
      rw [← mirrored_mirrored before, hrest, mirrored_append, mirrored_cons]
      simp [Instruction.mirror]
    have hwhole : p.toList =
        mirrored rest ++ .loopStart :: (mirrored inner ++ .loopEnd :: post) := by
      rw [hsplit, hbefore]
      simp
    have hlen : before.length = rest.length + 1 + inner.length := by
      rw [hbefore]
      simp only [List.length_append, List.length_cons, length_mirrored]
      omega
    have hjoins := joins_of_toList_eq hwhole hinner.mirrored
    rw [length_mirrored, length_mirrored, ← hlen] at hjoins
    rwa [show before.length - (inner.length + 1) = rest.length by omega]
  · intro hjoins
    obtain ⟨pre, body, post', hsplit', hbody, rfl, hlen⟩ := joins_iff.mp hjoins
    have hregroup : pre ++ .loopStart :: (body ++ .loopEnd :: post') =
        (pre ++ .loopStart :: body) ++ .loopEnd :: post' := by simp
    rw [hsplit, hregroup] at hsplit'
    have hlen' : before.length = (pre ++ Instruction.loopStart :: body).length := by
      simp only [List.length_append, List.length_cons]
      omega
    obtain ⟨rfl, -⟩ := List.append_inj hsplit' hlen'
    refine ⟨body.length + 1, ⟨mirrored body, mirrored pre, ?_, hbody.mirrored, ?_⟩, by omega⟩
    · rw [mirrored_append, mirrored_cons]
      simp [Instruction.mirror]
    · rw [length_mirrored]

/-- A search that fails reports the bracket it started from. -/
theorem partner_eq_error {p : Program} {position : Nat} {direction : Direction} {i : Instruction}
    {fault : Fault} (hget : p.get? position = some i)
    (h : p.partner position direction = .error fault) : fault = ⟨position, i.toChar⟩ := by
  unfold partner at h
  simp only at h
  split at h
  · cases h
  · rw [hget, Option.getD_some] at h
    exact (Except.error.inj h).symm

/-! ## Each bracket has one partner -/

theorem Joins.end_unique {p : Program} {a b b' : Nat} (h : p.Joins a b) (h' : p.Joins a b') :
    b = b' := by
  have hfirst := (partner_forward_eq_ok_iff h.start_eq).mpr h
  have hsecond := (partner_forward_eq_ok_iff h.start_eq).mpr h'
  exact Except.ok.inj (hfirst.symm.trans hsecond)

theorem Joins.start_unique {p : Program} {a a' b : Nat} (h : p.Joins a b) (h' : p.Joins a' b) :
    a = a' := by
  have hfirst := (partner_backward_eq_ok_iff h.end_eq).mpr h
  have hsecond := (partner_backward_eq_ok_iff h.end_eq).mpr h'
  exact Except.ok.inj (hfirst.symm.trans hsecond)

end Program

end TapeConsole
