import TapeConsole.Proofs.Passes
set_option autoImplicit false

/-!
# What a headless run reads

A headless run reads when a value is waited for and at no other time.  A read that
was interrupted is repeated, so a value takes some interrupted events and the first
event that is not: `ReadEvent.taken`.  Of a reader only the events that are not
interrupted matter, and after the last of them the end of the input, again and again:
`ReadEvent.settled`.

`Headless.State.calls` and `Headless.State.reads` follow a run pass by pass: the calls
it makes, and the events it takes from its reader.  The main lemma,

    Headless.State.answers_reads

says that the events taken, without the interrupted ones, are the values delivered
and then, if the run has ended because a read failed, that failure.  A second lemma,
`Headless.State.SameInput.step`, says that a pass sees of its reader only the settled
events, so two readers that have the same ones cannot be told apart.
-/

namespace TapeConsole

/-! ## Readers -/

namespace ReadEvent

/-- The event that counts as number `i`: interrupted ones are left out, and after the last one
the input is at its end for ever. -/
def settled (reader : List ReadEvent) (i : Nat) : ReadEvent :=
  (reader.filter (· ≠ .interrupted)).getD i .ended

/-- What an event is to a program that waits for a value. -/
def answer : ReadEvent → Except String Int64
  | .byte b => .ok (Int64.ofNat b.toNat)
  | .ended => .ok 0
  | .interrupted => .ok 0
  | .failed reason => .error reason

/-- The events that one value takes: interrupted ones, and the first that is not. -/
def taken : List ReadEvent → List ReadEvent
  | [] => [.ended]
  | .interrupted :: rest => .interrupted :: taken rest
  | event :: _ => [event]

theorem filter_cons {event : ReadEvent} (h : event ≠ .interrupted) (rest : List ReadEvent) :
    (event :: rest).filter (· ≠ .interrupted) =
      event :: rest.filter (· ≠ .interrupted) :=
  List.filter_cons_of_pos (decide_eq_true h)

theorem settled_cons_zero {event : ReadEvent} (h : event ≠ .interrupted)
    (rest : List ReadEvent) : settled (event :: rest) 0 = event := by
  rw [settled, filter_cons h]
  rfl

theorem settled_cons_succ {event : ReadEvent} (h : event ≠ .interrupted)
    (rest : List ReadEvent) (i : Nat) : settled (event :: rest) (i + 1) = settled rest i := by
  rw [settled, filter_cons h]
  rfl

theorem taken_cons {event : ReadEvent} (h : event ≠ .interrupted) (rest : List ReadEvent) :
    taken (event :: rest) = [event] := by
  cases event with
  | interrupted => exact absurd rfl h
  | _ => rfl

theorem next_cons {event : ReadEvent} (h : event ≠ .interrupted) (rest : List ReadEvent) :
    next (event :: rest) = (event.answer, rest) := by
  cases event with
  | interrupted => exact absurd rfl h
  | _ => rfl

/-- The next value is that of the first settled event, and the events taken are gone. -/
theorem next_eq (reader : List ReadEvent) :
    next reader = ((settled reader 0).answer, reader.drop (taken reader).length) := by
  induction reader with
  | nil => rfl
  | cons event rest ih =>
      by_cases h : event = .interrupted
      · subst h
        exact ih
      · rw [next_cons h, settled_cons_zero h, taken_cons h]
        rfl

/-- What is left after a value are the later settled events. -/
theorem settled_drop_taken (reader : List ReadEvent) (i : Nat) :
    settled (reader.drop (taken reader).length) i = settled reader (i + 1) := by
  induction reader with
  | nil => rfl
  | cons event rest ih =>
      by_cases h : event = .interrupted
      · subst h
        exact ih
      · rw [taken_cons h, settled_cons_succ h]
        rfl

/-- A value takes one settled event. -/
theorem filter_taken (reader : List ReadEvent) :
    (taken reader).filter (· ≠ .interrupted) = [settled reader 0] := by
  induction reader with
  | nil => rfl
  | cons event rest ih =>
      by_cases h : event = .interrupted
      · subst h
        exact ih
      · rw [taken_cons h, settled_cons_zero h, filter_cons h]
        rfl

/-- The events taken are the next ones of the reader, or its end. -/
theorem getElem?_taken {reader : List ReadEvent} {k : Nat} (hk : k < (taken reader).length) :
    (taken reader)[k]? = some (reader.getD k .ended) := by
  induction reader generalizing k with
  | nil =>
      obtain rfl := Nat.lt_one_iff.mp hk
      rfl
  | cons event rest ih =>
      by_cases h : event = .interrupted
      · subst h
        cases k with
        | zero => rfl
        | succ k => exact ih (Nat.lt_of_succ_lt_succ hk)
      · rw [taken_cons h] at hk ⊢
        obtain rfl := Nat.lt_one_iff.mp hk
        rfl

theorem eq_failed_of_answer {event : ReadEvent} {reason : String}
    (h : event.answer = .error reason) : event = .failed reason := by
  cases event with
  | failed other => rw [Except.error.inj h]
  | _ => cases h

end ReadEvent

/-! ## Sources in chunks -/

/-- What a source has ready at a time: some bytes, or something else that a read can give. -/
inductive Chunk where
  | bytes (bs : List UInt8)
  | other (event : ReadEvent)
  deriving DecidableEq, Repr, Inhabited

namespace Chunk

/-- One read of at most one byte.  Chunks without bytes are passed over. -/
def read : List Chunk → ReadEvent × List Chunk
  | [] => (.ended, [])
  | .bytes [] :: rest => read rest
  | .bytes (b :: bs) :: rest => (.byte b, .bytes bs :: rest)
  | .other event :: rest => (event, rest)

/-- What read number `k` gives, counted from zero. -/
def nth : (k : Nat) → List Chunk → ReadEvent
  | 0, chunks => (read chunks).1
  | k + 1, chunks => nth k (read chunks).2

/-- The events of a source, read one after the other. -/
def reader (chunks : List Chunk) : List ReadEvent :=
  chunks.flatMap fun
    | .bytes bs => bs.map .byte
    | .other event => [event]

theorem reader_read (chunks : List Chunk) :
    (read chunks).1 = (reader chunks).getD 0 .ended ∧
      reader (read chunks).2 = (reader chunks).drop 1 := by
  fun_induction read chunks with
  | case1 => exact ⟨rfl, rfl⟩
  | case2 rest ih => exact ih
  | case3 rest b bs => exact ⟨rfl, rfl⟩
  | case4 rest event => exact ⟨rfl, rfl⟩

/-- However its bytes are split into chunks, the reads of a source give its events in order, and
then the end of the input. -/
theorem nth_eq (k : Nat) :
    ∀ chunks : List Chunk, nth k chunks = (reader chunks).getD k .ended := by
  induction k with
  | zero => intro chunks; exact (reader_read chunks).1
  | succ k ih =>
      intro chunks
      rw [nth, ih, (reader_read chunks).2, List.getD_eq_getElem?_getD, List.getElem?_drop,
        Nat.add_comm, ← List.getD_eq_getElem?_getD]

end Chunk

namespace Headless

namespace State

/-! ## One pass -/

/-- The calls that a pass makes. -/
def callsOf (limit : Option Nat) (s : State) : List Call :=
  if atLimit limit s.ticks then []
  else if s.machine.engine.blocked then
    match (ReadEvent.next s.reader).1 with
    | .ok v => [.deliver v, .tick]
    | .error _ => []
  else [.tick]

/-- The events that a pass takes from its reader. -/
def readsOf (limit : Option Nat) (s : State) : List ReadEvent :=
  if atLimit limit s.ticks then []
  else if s.machine.engine.blocked then ReadEvent.taken s.reader
  else []

/-- The failed read that a run has ended with, none or one. -/
def failureOf : Option (Except Failure Summary) → List (Except String Int64)
  | some (.error (.input reason)) => [.error reason]
  | _ => []

theorem failureOf_tick (s : State) : failureOf s.tick.result = [] := by
  rcases s.tick_cases with h | h | ⟨fault, h⟩ <;> rw [h] <;> rfl

/-- What a pass calls, reads and leads to. -/
inductive PassReads (limit : Option Nat) (s : State) : Prop where
  /-- The limit stops the run. -/
  | stopped (hcalls : s.callsOf limit = []) (hreads : s.readsOf limit = [])
      (hstep : s.step limit = ⟨s, some (.error (.tickLimit s.ticks))⟩)
  /-- A value is waited for, and the read fails. -/
  | unread (reason : String) (hblocked : s.machine.engine.blocked = true)
      (hevent : ReadEvent.settled s.reader 0 = .failed reason)
      (hcalls : s.callsOf limit = []) (hreads : s.readsOf limit = ReadEvent.taken s.reader)
      (hstep : s.step limit =
        ⟨{ s with reader := s.reader.drop (ReadEvent.taken s.reader).length },
          some (.error (.input reason))⟩)
  /-- A value is waited for, read and delivered. -/
  | answers (v : Int64) (hblocked : s.machine.engine.blocked = true)
      (hevent : (ReadEvent.settled s.reader 0).answer = .ok v)
      (hcalls : s.callsOf limit = [.deliver v, .tick])
      (hreads : s.readsOf limit = ReadEvent.taken s.reader)
      (hstep : s.step limit =
        (s.supplied v (s.reader.drop (ReadEvent.taken s.reader).length)).tick)
  /-- No value is waited for. -/
  | ticks (hcalls : s.callsOf limit = [.tick]) (hreads : s.readsOf limit = [])
      (hstep : s.step limit = s.tick)

theorem pass_reads (limit : Option Nat) (s : State) : s.PassReads limit := by
  have hnext := ReadEvent.next_eq s.reader
  cases s.pass_event limit with
  | stopped hlimit hstep =>
      exact .stopped (by simp [callsOf, hlimit]) (by simp [readsOf, hlimit]) hstep
  | unread reason reader hlimit hblocked hread hstep =>
      obtain ⟨hanswer, rfl⟩ := Prod.mk.inj (hnext.symm.trans hread)
      exact .unread reason hblocked (ReadEvent.eq_failed_of_answer hanswer)
        (by simp [callsOf, hlimit, hblocked, hread]) (by simp [readsOf, hlimit, hblocked]) hstep
  | answers v reader hlimit hblocked hread hstep =>
      obtain ⟨hanswer, rfl⟩ := Prod.mk.inj (hnext.symm.trans hread)
      exact .answers v hblocked hanswer (by simp [callsOf, hlimit, hblocked, hread])
        (by simp [readsOf, hlimit, hblocked]) hstep
  | ticks hlimit hblocked hstep =>
      exact .ticks (by simp [callsOf, hlimit, hblocked]) (by simp [readsOf, hlimit, hblocked]) hstep

theorem machine_step (limit : Option Nat) (s : State) :
    (s.step limit).state.machine = s.machine.after (s.callsOf limit) := by
  cases s.pass_reads limit with
  | stopped hcalls _ hstep => rw [hcalls, hstep]; rfl
  | unread _ _ _ hcalls _ hstep => rw [hcalls, hstep]; rfl
  | answers _ _ _ hcalls _ hstep => rw [hcalls, hstep, state_tick]; rfl
  | ticks hcalls _ hstep => rw [hcalls, hstep, state_tick]; rfl

/-- A pass takes what it reads from its reader, and nothing else. -/
theorem reader_step (limit : Option Nat) (s : State) :
    (s.step limit).state.reader = s.reader.drop (s.readsOf limit).length := by
  cases s.pass_reads limit with
  | stopped _ hreads hstep => rw [hreads, hstep]; rfl
  | unread _ _ _ _ hreads hstep => rw [hreads, hstep]
  | answers _ _ _ _ hreads hstep => rw [hreads, hstep, state_tick]; rfl
  | ticks _ hreads hstep => rw [hreads, hstep, state_tick]; rfl

theorem getElem?_readsOf {limit : Option Nat} {s : State} {k : Nat}
    (hk : k < (s.readsOf limit).length) :
    (s.readsOf limit)[k]? = some (s.reader.getD k .ended) := by
  have hnone : ¬k < ([] : List ReadEvent).length := Nat.not_lt_zero k
  cases s.pass_reads limit with
  | stopped _ hreads _ => rw [hreads] at hk; exact absurd hk hnone
  | unread _ _ _ _ hreads _ => rw [hreads] at hk ⊢; exact ReadEvent.getElem?_taken hk
  | answers _ _ _ _ hreads _ => rw [hreads] at hk ⊢; exact ReadEvent.getElem?_taken hk
  | ticks _ hreads _ => rw [hreads] at hk; exact absurd hk hnone

/-- A pass takes no settled event, or the first one. -/
theorem filter_readsOf (limit : Option Nat) (s : State) :
    ((s.readsOf limit).filter (· ≠ .interrupted) = [] ∧
      (s.step limit).state.reader = s.reader) ∨
    ((s.readsOf limit).filter (· ≠ .interrupted) = [ReadEvent.settled s.reader 0] ∧
      ∀ i, ReadEvent.settled (s.step limit).state.reader i =
        ReadEvent.settled s.reader (i + 1)) := by
  have hreader := s.reader_step limit
  have hnone : s.readsOf limit = [] → (s.readsOf limit).filter (· ≠ .interrupted) = [] ∧
      (s.step limit).state.reader = s.reader := by
    intro hreads
    rw [hreader, hreads]
    exact ⟨rfl, rfl⟩
  have hone : s.readsOf limit = ReadEvent.taken s.reader →
      (s.readsOf limit).filter (· ≠ .interrupted) = [ReadEvent.settled s.reader 0] ∧
        ∀ i, ReadEvent.settled (s.step limit).state.reader i =
          ReadEvent.settled s.reader (i + 1) := by
    intro hreads
    rw [hreader, hreads]
    exact ⟨ReadEvent.filter_taken s.reader, ReadEvent.settled_drop_taken s.reader⟩
  cases s.pass_reads limit with
  | stopped _ hreads _ => exact .inl (hnone hreads)
  | unread _ _ _ _ hreads _ => exact .inr (hone hreads)
  | answers _ _ _ _ hreads _ => exact .inr (hone hreads)
  | ticks _ hreads _ => exact .inl (hnone hreads)

/-- The settled event that a pass takes is delivered as a value, or ends the run. -/
theorem answers_readsOf (limit : Option Nat) (s : State) :
    ((s.readsOf limit).filter (· ≠ .interrupted)).map ReadEvent.answer =
      (s.machine.engine.consumed (s.callsOf limit)).map .ok ++
        failureOf (s.step limit).result := by
  cases s.pass_reads limit with
  | stopped hcalls hreads hstep => rw [hcalls, hreads, hstep]; rfl
  | unread reason _ hevent hcalls hreads hstep =>
      rw [hcalls, hreads, hstep, ReadEvent.filter_taken, hevent]
      rfl
  | answers v hblocked hevent hcalls hreads hstep =>
      have hconsumed : s.machine.engine.consumed [.deliver v, .tick] = [v] := by
        simp only [Engine.consumed, Engine.call, Engine.deliver_of_blocked hblocked, Call.taken]
        rfl
      rw [hcalls, hreads, hstep, ReadEvent.filter_taken, hconsumed, failureOf_tick,
        List.map_singleton, hevent]
      rfl
  | ticks hcalls hreads hstep =>
      rw [hcalls, hreads, hstep, failureOf_tick]
      rfl

/-! ## Pass by pass -/

/-- The calls that the first `n` passes make. -/
def calls (limit : Option Nat) : Nat → State → List Call
  | 0, _ => []
  | n + 1, s => s.callsOf limit ++
      match (s.step limit).result with
      | some _ => []
      | none => calls limit n (s.step limit).state

/-- The events that the first `n` passes take from the reader. -/
def reads (limit : Option Nat) : Nat → State → List ReadEvent
  | 0, _ => []
  | n + 1, s => s.readsOf limit ++
      match (s.step limit).result with
      | some _ => []
      | none => reads limit n (s.step limit).state

variable {limit : Option Nat} {s t : State}

theorem calls_of_ended {result : Except Failure Summary} (h : s.step limit = ⟨t, some result⟩)
    (n : Nat) : s.calls limit (n + 1) = s.callsOf limit := by
  rw [calls, h, List.append_nil]

theorem calls_of_going (h : s.step limit = ⟨t, none⟩) (n : Nat) :
    s.calls limit (n + 1) = s.callsOf limit ++ t.calls limit n := by
  rw [calls, h]

theorem reads_of_ended {result : Except Failure Summary} (h : s.step limit = ⟨t, some result⟩)
    (n : Nat) : s.reads limit (n + 1) = s.readsOf limit := by
  rw [reads, h, List.append_nil]

theorem reads_of_going (h : s.step limit = ⟨t, none⟩) (n : Nat) :
    s.reads limit (n + 1) = s.readsOf limit ++ t.reads limit n := by
  rw [reads, h]

/-- To its machine a run is the history of the calls it makes. -/
theorem machine_passes (limit : Option Nat) (n : Nat) :
    ∀ s : State, (s.passes limit n).machine = s.machine.after (s.calls limit n) := by
  induction n with
  | zero => intro s; rfl
  | succ n ih =>
      intro s
      have hmachine := s.machine_step limit
      rcases hstep : s.step limit with ⟨t, _ | result⟩
      · rw [hstep] at hmachine
        rw [passes_of_going hstep, calls_of_going hstep, ih, Machine.after_append, ← hmachine]
      · rw [hstep] at hmachine
        rw [passes_of_ended hstep, calls_of_ended hstep, ← hmachine]

theorem reset_not_mem_calls (limit : Option Nat) (n : Nat) :
    ∀ s : State, Call.reset ∉ s.calls limit n := by
  induction n with
  | zero => intro s h; cases h
  | succ n ih =>
      intro s
      have hpass : Call.reset ∉ s.callsOf limit := by
        cases s.pass_reads limit with
        | stopped hcalls _ _ => rw [hcalls]; simp
        | unread _ _ _ hcalls _ _ => rw [hcalls]; simp
        | answers _ _ _ hcalls _ _ => rw [hcalls]; simp
        | ticks hcalls _ _ => rw [hcalls]; simp
      rcases hstep : s.step limit with ⟨t, _ | result⟩
      · rw [calls_of_going hstep, List.mem_append, not_or]
        exact ⟨hpass, ih t⟩
      · rw [calls_of_ended hstep]
        exact hpass

/-- The events taken are the first ones of the reader, and the rest is left. -/
theorem reads_eq (limit : Option Nat) (n : Nat) :
    ∀ s : State, (s.passes limit n).reader = s.reader.drop (s.reads limit n).length ∧
      ∀ k, k < (s.reads limit n).length →
        (s.reads limit n)[k]? = some (s.reader.getD k .ended) := by
  induction n with
  | zero =>
      intro s
      refine ⟨rfl, ?_⟩
      intro k hk
      cases hk
  | succ n ih =>
      intro s
      have hreader := s.reader_step limit
      rcases hstep : s.step limit with ⟨t, _ | result⟩
      · rw [hstep] at hreader
        obtain ⟨hleft, hevents⟩ := ih t
        rw [passes_of_going hstep, reads_of_going hstep, hleft, hreader, List.drop_drop,
          List.length_append]
        refine ⟨rfl, ?_⟩
        intro k hk
        by_cases hfirst : k < (s.readsOf limit).length
        · rw [List.getElem?_append_left hfirst]
          exact getElem?_readsOf hfirst
        · rw [List.getElem?_append_right (by omega), hevents _ (by omega), hreader,
            List.getD_eq_getElem?_getD, List.getElem?_drop, ← List.getD_eq_getElem?_getD]
          congr 2
          omega
      · rw [hstep] at hreader
        rw [passes_of_ended hstep, reads_of_ended hstep]
        exact ⟨hreader, fun k hk => getElem?_readsOf hk⟩

/-- Without the interrupted ones, the events taken are the first settled ones. -/
theorem filter_reads (limit : Option Nat) (n : Nat) :
    ∀ (s : State) (i : Nat) (event : ReadEvent),
      ((s.reads limit n).filter (· ≠ .interrupted))[i]? = some event →
      event = ReadEvent.settled s.reader i := by
  induction n with
  | zero => intro s i event h; cases h
  | succ n ih =>
      intro s i event h
      have hone := s.filter_readsOf limit
      rcases hstep : s.step limit with ⟨t, _ | result⟩
      · rw [hstep] at hone
        rw [reads_of_going hstep, List.filter_append] at h
        rcases hone with ⟨hfilter, hreader⟩ | ⟨hfilter, hreader⟩
        · rw [hfilter, List.nil_append] at h
          rw [ih t i event h, hreader]
        · rw [hfilter, List.singleton_append] at h
          cases i with
          | zero => exact (Option.some.inj h).symm
          | succ i => rw [ih t i event h, hreader]
      · rw [reads_of_ended hstep] at h
        rcases hone with ⟨hfilter, -⟩ | ⟨hfilter, -⟩
        · rw [hfilter] at h
          cases h
        · rw [hfilter] at h
          cases i with
          | zero => exact (Option.some.inj h).symm
          | succ i => cases h

/-- The events taken, without the interrupted ones, are the values delivered and then the failed
read that the run has ended with, if it has. -/
theorem answers_reads (limit : Option Nat) (n : Nat) :
    ∀ s : State, ((s.reads limit n).filter (· ≠ .interrupted)).map ReadEvent.answer =
      (s.machine.engine.consumed (s.calls limit n)).map .ok ++
        failureOf ((runFor n limit s).map Prod.snd) := by
  induction n with
  | zero => intro s; rfl
  | succ n ih =>
      intro s
      have hpass := s.answers_readsOf limit
      have hmachine := s.machine_step limit
      rcases hstep : s.step limit with ⟨t, _ | result⟩
      · rw [hstep] at hpass hmachine
        have hengine : t.machine.engine = s.machine.engine.after (s.callsOf limit) := by
          rw [hmachine, Machine.engine_after]
        rw [reads_of_going hstep, calls_of_going hstep, runFor_of_going hstep, List.filter_append,
          List.map_append, hpass, ih, Engine.consumed_append, List.map_append, hengine]
        simp only [failureOf, List.append_nil, List.append_assoc]
      · rw [hstep] at hpass
        rw [reads_of_ended hstep, calls_of_ended hstep, runFor_of_ended hstep, hpass]
        rfl

/-- The settled events ahead are those of the start after the ones taken. -/
theorem settled_passes (limit : Option Nat) (n : Nat) :
    ∀ (s : State) (i : Nat), ReadEvent.settled (s.passes limit n).reader i =
      ReadEvent.settled s.reader (i + ((s.reads limit n).filter (· ≠ .interrupted)).length) := by
  induction n with
  | zero => intro s i; rfl
  | succ n ih =>
      intro s i
      have hone := s.filter_readsOf limit
      rcases hstep : s.step limit with ⟨t, _ | result⟩
      · rw [hstep] at hone
        rw [passes_of_going hstep, reads_of_going hstep, ih, List.filter_append,
          List.length_append]
        rcases hone with ⟨hfilter, hreader⟩ | ⟨hfilter, hreader⟩
        · rw [hfilter, hreader, List.length_nil, Nat.zero_add]
        · rw [hfilter, hreader, List.length_singleton, Nat.add_comm 1, Nat.add_assoc]
      · rw [hstep] at hone
        rw [passes_of_ended hstep, reads_of_ended hstep]
        rcases hone with ⟨hfilter, hreader⟩ | ⟨hfilter, hreader⟩
        · rw [hfilter, hreader]
          rfl
        · rw [hfilter, hreader]
          rfl

/-- A run that has ended because a read failed still waits for the value. -/
theorem blocked_of_input {n : Nat} {reason : String} :
    ∀ {s s' : State}, runFor n limit s = some (s', .error (.input reason)) →
      s'.machine.engine.blocked = true := by
  induction n with
  | zero => intro s s' h; cases h
  | succ n ih =>
      intro s s' h
      have hticks : ∀ u : State, s.step limit = u.tick → s'.machine.engine.blocked = true := by
        intro u hstep
        rcases u.tick_cases with hgoes | hends | ⟨fault, hfaults⟩
        · rw [runFor_of_going (hstep.trans hgoes)] at h
          exact ih h
        · rw [runFor_of_ended (hstep.trans hends)] at h
          cases h
        · rw [runFor_of_ended (hstep.trans hfaults)] at h
          cases h
      cases s.pass_reads limit with
      | stopped _ _ hstep =>
          rw [runFor_of_ended hstep] at h
          cases h
      | unread _ hblocked _ _ _ hstep =>
          rw [runFor_of_ended hstep] at h
          cases h
          exact hblocked
      | answers _ _ _ _ _ hstep => exact hticks _ hstep
      | ticks _ _ hstep => exact hticks _ hstep

/-- A value that was delivered is that of the settled event of the same number. -/
theorem answer_of_consumed {n i : Nat} {v : Int64}
    (h : (s.machine.engine.consumed (s.calls limit n))[i]? = some v) :
    (ReadEvent.settled s.reader i).answer = .ok v := by
  have hanswers := s.answers_reads limit n
  have hget : (((s.reads limit n).filter (· ≠ .interrupted)).map ReadEvent.answer)[i]? =
      some (.ok v) := by
    obtain ⟨hlt, -⟩ := List.getElem?_eq_some_iff.mp h
    rw [hanswers, List.getElem?_append_left (by rwa [List.length_map]), List.getElem?_map, h]
    rfl
  rw [List.getElem?_map, Option.map_eq_some_iff] at hget
  obtain ⟨event, hevent, hanswer⟩ := hget
  rw [← s.filter_reads limit n i event hevent, hanswer]

/-- As many settled events are taken as values delivered, and one more by a read that failed. -/
theorem length_filter_reads (n : Nat) :
    ((s.reads limit n).filter (· ≠ .interrupted)).length =
      (s.machine.engine.consumed (s.calls limit n)).length +
        (failureOf ((runFor n limit s).map Prod.snd)).length := by
  have hlength := congrArg List.length (s.answers_reads limit n)
  rwa [List.length_map, List.length_append, List.length_map] at hlength

/-- The read that a run has ended with was that of the next settled event. -/
theorem settled_of_input {n : Nat} {s' : State} {reason : String}
    (h : runFor n limit s = some (s', .error (.input reason))) :
    ReadEvent.settled s.reader (s.machine.engine.consumed (s.calls limit n)).length =
      .failed reason := by
  have hanswers := s.answers_reads limit n
  rw [h] at hanswers
  have hget : (((s.reads limit n).filter (· ≠ .interrupted)).map ReadEvent.answer)[
      (s.machine.engine.consumed (s.calls limit n)).length]? = some (.error reason) := by
    rw [hanswers, List.getElem?_append_right (Nat.le_of_eq (List.length_map _)),
      List.length_map, Nat.sub_self]
    rfl
  rw [List.getElem?_map, Option.map_eq_some_iff] at hget
  obtain ⟨event, hevent, hanswer⟩ := hget
  rw [← s.filter_reads limit n _ event hevent]
  exact ReadEvent.eq_failed_of_answer hanswer

/-- If the next settled event is a failed read, a run that waits for a value ends with it, and
nothing but its reader is changed. -/
theorem runFor_of_failed {n : Nat} {reason : String} (hgoing : runFor n limit s = none)
    (hevent : ReadEvent.settled s.reader
      (s.machine.engine.consumed (s.calls limit n)).length = .failed reason)
    (hblocked : (s.passes limit n).machine.engine.blocked = true)
    (hlimit : atLimit limit (s.passes limit n).ticks = false) :
    ∃ rest, runFor (n + 1) limit s =
      some ({ s.passes limit n with reader := rest }, .error (.input reason)) := by
  have hlength : ((s.reads limit n).filter (· ≠ .interrupted)).length =
      (s.machine.engine.consumed (s.calls limit n)).length := by
    rw [length_filter_reads, hgoing]
    rfl
  have hnext := ReadEvent.next_eq (s.passes limit n).reader
  rw [s.settled_passes limit n 0, Nat.zero_add, hlength, hevent] at hnext
  have hstep : (s.passes limit n).step limit =
      ⟨{ s.passes limit n with reader := (ReadEvent.next (s.passes limit n).reader).2 },
        some (.error (.input reason))⟩ := by
    unfold State.step
    rw [hlimit, hblocked, hnext]
    rfl
  refine ⟨(ReadEvent.next (s.passes limit n).reader).2, ?_⟩
  rw [(runFor_of_none hgoing).2 1]
  exact runFor_of_ended hstep 0

/-! ## Readers that cannot be told apart -/

/-- Two runs at the same point, whose readers have the same settled events ahead. -/
structure SameInput (s s' : State) : Prop where
  machine_eq : s'.machine = s.machine
  ticks_eq : s'.ticks = s.ticks
  settled_eq : ∀ i, ReadEvent.settled s'.reader i = ReadEvent.settled s.reader i

namespace SameInput

variable {s s' : State}

theorem tick (h : SameInput s s') :
    SameInput s.tick.state s'.tick.state ∧ s'.tick.result = s.tick.result := by
  rcases s with ⟨m, reader, ticks⟩
  rcases s' with ⟨m', reader', ticks'⟩
  obtain ⟨rfl, rfl, hsettled⟩ := h
  constructor
  · rw [state_tick, state_tick]
    exact ⟨rfl, rfl, hsettled⟩
  · unfold State.tick
    rcases m'.tick with ⟨machine, outcome⟩
    cases outcome <;> rfl

/-- A pass sees of its reader only the settled events. -/
theorem step (h : SameInput s s') (limit : Option Nat) :
    SameInput (s.step limit).state (s'.step limit).state ∧
      (s'.step limit).result = (s.step limit).result := by
  have hevent : (ReadEvent.settled s'.reader 0).answer = (ReadEvent.settled s.reader 0).answer := by
    rw [h.settled_eq]
  have hrest : ∀ i, ReadEvent.settled (s'.reader.drop (ReadEvent.taken s'.reader).length) i =
      ReadEvent.settled (s.reader.drop (ReadEvent.taken s.reader).length) i := by
    intro i
    rw [ReadEvent.settled_drop_taken, ReadEvent.settled_drop_taken, h.settled_eq]
  unfold State.step
  rw [h.ticks_eq, h.machine_eq, ReadEvent.next_eq, ReadEvent.next_eq, hevent]
  split
  · exact ⟨h, rfl⟩
  · split
    · cases (ReadEvent.settled s.reader 0).answer with
      | ok v => exact tick ⟨rfl, rfl, hrest⟩
      | error reason => exact ⟨⟨rfl, rfl, hrest⟩, rfl⟩
    · rcases s' with ⟨m', reader', ticks'⟩
      exact h.tick

/-- They stay together pass by pass. -/
theorem passes (limit : Option Nat) (n : Nat) :
    ∀ {s s' : State}, SameInput s s' → SameInput (s.passes limit n) (s'.passes limit n) := by
  induction n with
  | zero => intro s s' h; exact h
  | succ n ih =>
      intro s s' h
      obtain ⟨hstate, hresult⟩ := h.step limit
      rcases hstep : s.step limit with ⟨t, result⟩
      rcases hstep' : s'.step limit with ⟨t', result'⟩
      rw [hstep, hstep'] at hstate hresult
      obtain rfl : result' = result := hresult
      cases result' with
      | none =>
          rw [passes_of_going hstep, passes_of_going hstep']
          exact ih hstate
      | some result =>
          rw [passes_of_ended hstep, passes_of_ended hstep']
          exact hstate

/-- They end alike, or both do not end. -/
theorem runFor (limit : Option Nat) (n : Nat) :
    ∀ {s s' : State}, SameInput s s' →
      (Headless.runFor n limit s').map (fun r => (r.1.machine, r.2)) =
        (Headless.runFor n limit s).map (fun r => (r.1.machine, r.2)) := by
  induction n with
  | zero => intro s s' _; rfl
  | succ n ih =>
      intro s s' h
      obtain ⟨hstate, hresult⟩ := h.step limit
      rcases hstep : s.step limit with ⟨t, result⟩
      rcases hstep' : s'.step limit with ⟨t', result'⟩
      rw [hstep, hstep'] at hstate hresult
      obtain rfl : result' = result := hresult
      cases result' with
      | none =>
          rw [runFor_of_going hstep, runFor_of_going hstep']
          exact ih hstate
      | some result =>
          rw [runFor_of_ended hstep, runFor_of_ended hstep', Option.map_some, Option.map_some,
            hstate.machine_eq]

end SameInput

end State

/-- The input protocol of headless runs.  For every program, limit and writer, and after any number
of passes: the events taken are the first ones of the reader; value number `i` is that of the event
number `i` that was not interrupted, zero for the end of the input, and it goes into the cell at
which input instruction number `i` was carried out; and nothing is read ahead, so apart from
interrupted ones as many events are taken as values delivered, and one more exactly if the run has
ended because a read failed.  A failed read ends the run before the cell is written and before
another tick.  A source in chunks is read as one sequence of events; hence two sources that differ
only in interrupted reads and in how their bytes are split give the same result and leave the same
machine, with its log and the bytes written. -/
theorem values_are_settled_events (source : String) (limit : Option Nat) (writer : ByteWriter) :
    (∀ (reader : List ReadEvent) (n : Nat),
      let s := State.start source reader writer
      let e := Engine.ofSource source
      let calls := s.calls limit n
      let taken := s.reads limit n
      let values := e.consumed calls
      (s.passes limit n).machine = s.machine.after calls ∧
      (s.passes limit n).reader = reader.drop taken.length ∧
      (∀ k, k < taken.length → taken[k]? = some (reader.getD k .ended)) ∧
      (∀ i v, values[i]? = some v →
        (ReadEvent.settled reader i).answer = .ok v ∧
        ∃ earlier waited later,
          calls = earlier ++ .tick :: (List.replicate waited .tick ++ .deliver v :: later) ∧
          (e.carried earlier).count .input = i ∧
          ((e.after earlier).call .tick).answer = .outcome (.dispatched .input) ∧
          (e.after (earlier ++ .tick :: (List.replicate waited .tick ++ [.deliver v]))).tape =
            (e.after earlier).tape.write v ∧
          (e.after (earlier ++ .tick :: (List.replicate waited .tick ++ [.deliver v]))).tape.cells =
            (e.after earlier).tape.cells.set (e.after earlier).tape.pointer v) ∧
      (runFor n limit s = none →
        (taken.filter (· ≠ .interrupted)).length = values.length ∧
        ∀ reason, ReadEvent.settled reader values.length = .failed reason →
          (s.passes limit n).machine.engine.blocked = true →
          atLimit limit (s.passes limit n).ticks = false →
          ∃ rest, runFor (n + 1) limit s =
            some ({ s.passes limit n with reader := rest }, .error (.input reason))) ∧
      (∀ s' result, runFor n limit s = some (s', result) →
        (∀ reason, result ≠ .error (.input reason)) →
        (taken.filter (· ≠ .interrupted)).length = values.length) ∧
      (∀ s' reason, runFor n limit s = some (s', .error (.input reason)) →
        (taken.filter (· ≠ .interrupted)).length = values.length + 1 ∧
        ReadEvent.settled reader values.length = .failed reason ∧
        s'.machine.engine.blocked = true)) ∧
    (∀ (chunks : List Chunk) (k : Nat),
      Chunk.nth k chunks = (Chunk.reader chunks).getD k .ended) ∧
    ∀ chunks chunks' : List Chunk,
      (∀ i, ReadEvent.settled (Chunk.reader chunks) i =
        ReadEvent.settled (Chunk.reader chunks') i) →
      ∀ n,
        let s := State.start source (Chunk.reader chunks) writer
        let s' := State.start source (Chunk.reader chunks') writer
        (runFor n limit s).map (fun r => (r.1.machine, r.2)) =
          (runFor n limit s').map (fun r => (r.1.machine, r.2)) ∧
        (s.passes limit n).machine = (s'.passes limit n).machine := by
  refine ⟨?_, fun chunks k => Chunk.nth_eq k chunks, ?_⟩
  · intro reader n s e calls taken values
    have hlength : (taken.filter (· ≠ .interrupted)).length =
        values.length + (State.failureOf ((runFor n limit s).map Prod.snd)).length :=
      s.length_filter_reads n
    obtain ⟨hleft, hevents⟩ := s.reads_eq limit n
    refine ⟨s.machine_passes limit n, hleft, hevents, ?_, ?_, ?_, ?_⟩
    · intro i v hvalue
      have hinvariant : e.Invariant := Engine.Invariant.of_start _ _
      obtain ⟨earlier, waited, later, hcalls, hcount, hanswer, -, hcell⟩ :=
        Engine.exists_request_of_consumed hinvariant (JumpMemo.sound_blank _) rfl
          (s.reset_not_mem_calls limit n) hvalue
      exact ⟨State.answer_of_consumed (s := s) hvalue,
        earlier, waited, later, hcalls, hcount, hanswer, hcell⟩
    · intro hgoing
      rw [hgoing] at hlength
      exact ⟨hlength, fun reason => State.runFor_of_failed hgoing⟩
    · intro s' result hends hother
      have hnone : State.failureOf (some result) = [] := by
        rcases result with (fault | reason | reached) | summary
        · rfl
        · exact absurd rfl (hother reason)
        · rfl
        · rfl
      rw [hends, Option.map_some, hnone] at hlength
      exact hlength
    · intro s' reason hends
      rw [hends] at hlength
      exact ⟨hlength, State.settled_of_input hends, State.blocked_of_input hends⟩
  · intro chunks chunks' hsettled n s s'
    have hsame : State.SameInput s' s := ⟨rfl, rfl, hsettled⟩
    exact ⟨hsame.runFor limit n, (hsame.passes limit n).machine_eq⟩

/-- On two requests and a reader that is interrupted, gives seven, is interrupted again and fails:
the first request gets the seven, which is then in the only cell, the run waits at the second one
after 117 passes, and the next pass ends it with the failure, though a byte would follow. -/
theorem values_are_settled_events_of_failing_reader :
    let s := State.start ",," [.interrupted, .byte 7, .interrupted, .failed "gone", .byte 8] {}
    let e := Engine.ofSource ",,"
    (runFor 117 none s).isNone = true ∧
    (ReadEvent.settled [.interrupted, .byte 7, .interrupted, .failed "gone", .byte 8] 0).answer =
      .ok 7 ∧
    (∃ earlier waited later,
      s.calls none 117 =
        earlier ++ .tick :: (List.replicate waited .tick ++ .deliver 7 :: later) ∧
      (e.after (earlier ++ .tick :: (List.replicate waited .tick ++ [.deliver 7]))).tape.cells =
        (e.after earlier).tape.cells.set (e.after earlier).tape.pointer 7) ∧
    (s.passes none 117).machine.engine.tape.cells = [7] ∧
    ((s.reads none 117).filter (· ≠ .interrupted)).length = 1 ∧
    (∃ rest, runFor 118 none s =
      some ({ s.passes none 117 with reader := rest }, .error (.input "gone"))) ∧
    (runFor 200 none (State.start ",." (Chunk.reader [.bytes [7]]) {})).map
        (fun r => (r.1.machine, r.2)) =
      (runFor 200 none (State.start ",."
        (Chunk.reader [.other .interrupted, .bytes [], .bytes [7]]) {})).map
        (fun r => (r.1.machine, r.2)) := by
  intro s e
  obtain ⟨hgoing, hvalues, hcells⟩ :
      (runFor 117 none s).isNone = true ∧ e.consumed (s.calls none 117) = [7] ∧
        (s.passes none 117).machine.engine.tape.cells = [7] := by decide +kernel
  obtain ⟨-, -, -, hanswers, hends, -, -⟩ :=
    (values_are_settled_events ",," none {}).1
      [.interrupted, .byte 7, .interrupted, .failed "gone", .byte 8] 117
  obtain ⟨hlength, hfails⟩ := hends (Option.isNone_iff_eq_none.mp hgoing)
  rw [hvalues] at hlength hfails hanswers
  obtain ⟨hseven, earlier, waited, later, hcalls, -, -, -, hcell⟩ := hanswers 0 7 rfl
  refine ⟨hgoing, hseven, ⟨earlier, waited, later, hcalls, hcell⟩, hcells, hlength, ?_, ?_⟩
  · exact hfails "gone" rfl (by decide +kernel) rfl
  · exact ((values_are_settled_events ",." none {}).2.2 [.bytes [7]]
      [.other .interrupted, .bytes [], .bytes [7]] (fun _ => rfl) 200).1

end Headless

end TapeConsole
