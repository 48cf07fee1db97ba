import TapeConsole.Proofs.Accounting
import TapeConsole.Proofs.HeadlessRun
set_option autoImplicit false

/-!
# What reaches a sink

A sink is offered every character a program writes.  A reset empties the output of
the engine and not the sink, so what a sink has seen is the output at each reset,
one after the other, and then the output now: `Engine.transcript`.

A writer of bytes holds as much of the transcript as there is room for.  It may
fill up in the middle of a character, and it stays full: each character from there
on is reported in the log and changes nothing.  `ByteWriter.Holds` is the invariant
of the writer, and `reports` says which records a log has by then.

No sink has a way back to the engine (`Machine.after_eq_advance`): the signals are
those of the engine alone, and a machine only passes them on.
-/

namespace TapeConsole

/-! ## Histories of machines -/

/-- The characters of a signal, none or one. -/
def Signal.characters : Signal → List Char
  | .note _ => []
  | .emit c => [c]

namespace Engine

/-- What leaves the engine in a history, in order. -/
def signals (e : Engine) : List Call → List Signal
  | [] => []
  | c :: rest => (e.call c).signals ++ (e.call c).engine.signals rest

theorem signals_append (first second : List Call) :
    ∀ e : Engine, e.signals (first ++ second) = e.signals first ++ (e.after first).signals second := by
  induction first with
  | nil => intro e; rfl
  | cons c rest ih =>
      intro e
      rw [List.cons_append, signals, ih, signals, List.append_assoc]
      rfl

/-- Everything written in a history: the output at each reset, in order, and the output at the
end. -/
def transcript (e : Engine) : List Call → List Char
  | [] => e.output.toList
  | .reset :: rest => e.output.toList ++ (e.call .reset).engine.transcript rest
  | c :: rest => (e.call c).engine.transcript rest

end Engine

namespace Machine

/-- Make one call: the machine after it, and the answer. -/
def call (m : Machine) : Call → Machine × Answer
  | .tick => (m.tick.1, .outcome m.tick.2)
  | .deliver v => ((m.deliver v).1, .taken (m.deliver v).2)
  | .reset => (m.reset, .restarted)

/-- The machine after a history. -/
def after (m : Machine) : List Call → Machine
  | [] => m
  | c :: rest => (m.call c).1.after rest

/-- The answers to a history, in order. -/
def answers (m : Machine) : List Call → List Answer
  | [] => []
  | c :: rest => (m.call c).2 :: (m.call c).1.answers rest

/-- A call is a call of the engine, and its signals are passed on. -/
theorem call_eq (m : Machine) (c : Call) :
    m.call c = (m.advance (m.engine.call c).engine (m.engine.call c).signals,
      (m.engine.call c).answer) := by
  cases c <;> rfl

/-- To pass signals on does not depend on the engine. -/
theorem foldl_accept_engine (e : Engine) (signals : List Signal) :
    ∀ m : Machine, signals.foldl accept { m with engine := e } =
      { signals.foldl accept m with engine := e } := by
  induction signals with
  | nil => intro m; rfl
  | cons signal rest ih =>
      intro m
      cases signal with
      | note record => exact ih (m.note record)
      | emit c => exact ih (m.accept (.emit c))

theorem advance_advance (m : Machine) (e e' : Engine) (signals signals' : List Signal) :
    (m.advance e signals).advance e' signals' = m.advance e' (signals ++ signals') := by
  have hfirst : ({ m.advance e signals with engine := e' } : Machine) = m.advance e' signals := by
    unfold advance
    rw [foldl_accept_engine e signals m, foldl_accept_engine e' signals m]
  change signals'.foldl accept { m.advance e signals with engine := e' } = _
  rw [hfirst]
  exact List.foldl_append.symm

/-- A history is one of the engine alone, and all its signals are passed on. -/
theorem after_eq_advance (calls : List Call) :
    ∀ m : Machine, m.after calls = m.advance (m.engine.after calls) (m.engine.signals calls) := by
  induction calls with
  | nil => intro m; rfl
  | cons c rest ih =>
      intro m
      unfold after
      rw [ih, call_eq, engine_advance, advance_advance]
      rfl

theorem engine_after (m : Machine) (calls : List Call) :
    (m.after calls).engine = m.engine.after calls := by
  rw [after_eq_advance, engine_advance]

/-- The answers are those of the engine. -/
theorem answers_eq (calls : List Call) :
    ∀ m : Machine, m.answers calls = m.engine.answers calls := by
  induction calls with
  | nil => intro m; rfl
  | cons c rest ih =>
      intro m
      unfold answers Engine.answers
      rw [ih, call_eq, engine_advance]

end Machine

/-! ## The transcript is what the signals carry -/

namespace Engine

/-- An instruction adds to the output the characters it sends out. -/
theorem output_perform (e : Engine) (i : Instruction) (position : Nat) :
    (e.perform i position).engine.output.toList =
      e.output.toList ++ (e.perform i position).signals.flatMap Signal.characters := by
  have hbracket : ∀ direction : Direction,
      (e.perform direction.bracket position).engine.output.toList =
        e.output.toList ++
          (e.perform direction.bracket position).signals.flatMap Signal.characters := by
    intro direction
    cases hjumps : direction.jumps e.tape.read with
    | false =>
        rw [perform_of_stays hjumps]
        simp
    | true =>
        rw [perform_of_jumps hjumps]
        unfold jump
        split <;> simp [Signal.characters]
  cases i with
  | loopStart => exact hbracket .forward
  | loopEnd => exact hbracket .backward
  | output => simp [perform, Signal.characters]
  | _ => simp [perform]

/-- A call that is no reset adds to the output the characters it sends out. -/
theorem output_call (e : Engine) {c : Call} (hreset : c ≠ .reset) :
    (e.call c).engine.output.toList =
      e.output.toList ++ (e.call c).signals.flatMap Signal.characters := by
  cases c with
  | tick =>
      unfold call
      cases e.tick_event with
      | faulted _ _ htick => simp [htick]
      | ended _ _ htick => simp [htick]
      | waiting _ _ _ htick => simp [htick, counted]
      | early _ htick => simp [htick, counted]
      | past _ _ htick => simp [htick, still, Signal.characters]
      | due i position h =>
          rw [h.tick_eq]
          exact output_perform e.begun i position
  | deliver v =>
      cases hblocked : e.blocked with
      | true => simp [call, deliver_of_blocked hblocked, Signal.characters]
      | false => simp [call, deliver_of_not_blocked hblocked]
  | reset => exact absurd rfl hreset

/-- The transcript is the output at the start and then every character sent out, also across
resets. -/
theorem transcript_eq (calls : List Call) :
    ∀ e : Engine, e.transcript calls =
      e.output.toList ++ (e.signals calls).flatMap Signal.characters := by
  induction calls with
  | nil => intro e; simp [transcript, signals]
  | cons c rest ih =>
      intro e
      unfold signals
      rw [List.flatMap_append]
      by_cases hreset : c = .reset
      · subst hreset
        unfold transcript
        rw [ih]
        rfl
      · have hstep : e.transcript (c :: rest) = (e.call c).engine.transcript rest := by
          cases c with
          | reset => exact absurd rfl hreset
          | _ => rfl
        rw [hstep, ih, e.output_call hreset, List.append_assoc]

end Engine

/-! ## A writer of bytes -/

/-- As much of a list as there is room for. -/
def cut {α : Type} : Option Nat → List α → List α
  | none, l => l
  | some n, l => l.take n

/-- There is room for all of these bytes. -/
def Fits : Option Nat → List UInt8 → Prop
  | none, _ => True
  | some n, bytes => bytes.length ≤ n

instance (capacity : Option Nat) (bytes : List UInt8) : Decidable (Fits capacity bytes) :=
  match capacity with
  | none => inferInstanceAs (Decidable True)
  | some n => inferInstanceAs (Decidable (bytes.length ≤ n))

/-- A character of one byte is written as that byte. -/
theorem charBytes_of_le {c : Char} (h : c.toNat ≤ 0xFF) :
    ∃ b : UInt8, b.toNat = c.toNat ∧ charBytes c = [b] := by
  refine ⟨c.toNat.toUInt8, ?_, if_pos h⟩
  exact UInt8.toNat_ofNat_of_lt' (Nat.lt_succ_of_le h)

/-- Any other character is written as its code in UTF-8. -/
theorem charBytes_of_lt {c : Char} (h : 0xFF < c.toNat) :
    charBytes c = String.utf8EncodeChar c :=
  if_neg (Nat.not_le.mpr h)

theorem charBytes_ne_nil (c : Char) : charBytes c ≠ [] := by
  unfold charBytes
  split
  · exact List.cons_ne_nil _ _
  · intro hnil
    have hlength := congrArg List.length hnil
    rw [String.length_utf8EncodeChar] at hlength
    exact absurd hlength (Nat.pos_iff_ne_zero.mp c.utf8Size_pos)

namespace ByteWriter

/-- Whether the next byte is refused. -/
def refuses (w : ByteWriter) : Bool :=
  match w.capacity with
  | none => false
  | some n => n ≤ w.held.size

theorem write_nil (w : ByteWriter) : w.write [] = (w, true) := by
  simp [write]

/-- To write is to offer one byte after the other, up to the first that is refused. -/
theorem write_cons (w : ByteWriter) (b : UInt8) (bytes : List UInt8) :
    w.write (b :: bytes) =
      if w.refuses then (w, false) else ({ w with held := w.held.push b } : ByteWriter).write bytes := by
  rcases w with ⟨held, _ | n⟩
  · simp [write, room, refuses]
  · by_cases hfull : n ≤ held.size
    · simp [write, room, refuses, hfull]
    · have hroom : min (bytes.length + 1) (n - held.size) =
          min bytes.length (n - (held.size + 1)) + 1 := by omega
      simp [write, room, refuses, hfull, hroom]

/-- The writer holds as much of these bytes as there is room for. -/
def Holds (w : ByteWriter) (bytes : List UInt8) : Prop := w.held.toList = cut w.capacity bytes

variable {w : ByteWriter} {bytes : List UInt8}

/-- A writer that takes one more byte has been given no more than it holds. -/
theorem Holds.push (h : w.Holds bytes) (hroom : w.refuses = false) (b : UInt8) :
    ({ w with held := w.held.push b } : ByteWriter).Holds (bytes ++ [b]) ∧
      Fits w.capacity (bytes ++ [b]) := by
  rcases w with ⟨held, _ | n⟩
  · have hheld : held.toList = bytes := h
    refine ⟨?_, trivial⟩
    unfold Holds cut
    rw [Array.toList_push, hheld]
  · have hheld : held.toList = bytes.take n := h
    have hsize : held.size < n := Nat.not_le.mp (of_decide_eq_false hroom)
    have hlength : bytes.length < n := by
      have hcount := congrArg List.length hheld
      rw [Array.length_toList, List.length_take] at hcount
      omega
    have hfits : (bytes ++ [b]).length ≤ n := by
      rw [List.length_append]
      exact hlength
    refine ⟨?_, hfits⟩
    change (held.push b).toList = (bytes ++ [b]).take n
    rw [Array.toList_push, hheld, List.take_of_length_le hfits,
      List.take_of_length_le (Nat.le_of_lt hlength)]

/-- A writer that refuses holds all it will ever hold. -/
theorem Holds.of_refuses (h : w.Holds bytes) (hfull : w.refuses = true) (b : UInt8)
    (more : List UInt8) :
    w.Holds (bytes ++ b :: more) ∧ ¬Fits w.capacity (bytes ++ b :: more) := by
  rcases w with ⟨held, _ | n⟩
  · cases hfull
  · have hheld : held.toList = bytes.take n := h
    have hsize : n ≤ held.size := of_decide_eq_true hfull
    have hlength : n ≤ bytes.length := by
      have hcount := congrArg List.length hheld
      rw [Array.length_toList, List.length_take] at hcount
      omega
    constructor
    · change held.toList = (bytes ++ b :: more).take n
      rw [List.take_append_of_le_length hlength, hheld]
    · change ¬(bytes ++ b :: more).length ≤ n
      rw [List.length_append, List.length_cons]
      omega

/-- Writing keeps what the writer holds a part of what it was given, and the answer says whether
all of it has found room.  The induction is on the bytes, each of which is taken or refused. -/
theorem Holds.write (more : List UInt8) :
    ∀ {w : ByteWriter} {bytes : List UInt8}, w.Holds bytes →
      (w.write more).1.Holds (bytes ++ more) ∧ (w.write more).1.capacity = w.capacity ∧
        (more ≠ [] → ((w.write more).2 = true ↔ Fits w.capacity (bytes ++ more))) := by
  induction more with
  | nil =>
      intro w bytes h
      rw [write_nil, List.append_nil]
      exact ⟨h, rfl, fun hne => absurd rfl hne⟩
  | cons b more ih =>
      intro w bytes h
      rw [write_cons]
      cases hroom : w.refuses with
      | true =>
          obtain ⟨hholds, hfits⟩ := h.of_refuses hroom b more
          refine ⟨hholds, rfl, ?_⟩
          intro _
          exact ⟨fun hfalse => absurd hfalse Bool.false_ne_true, fun hyes => absurd hyes hfits⟩
      | false =>
          obtain ⟨hnext, hfits⟩ := h.push hroom b
          obtain ⟨hholds, hcapacity, hanswer⟩ := ih hnext
          rw [List.append_assoc] at hholds hanswer
          refine ⟨hholds, hcapacity, ?_⟩
          intro _
          by_cases hmore : more = []
          · subst hmore
            rw [if_neg Bool.false_ne_true, write_nil]
            exact ⟨fun _ => hfits, fun _ => rfl⟩
          · exact hanswer hmore

end ByteWriter

/-! ## What sink and log have -/

/-- The warning that the last of these characters causes: there is one unless the bytes of all of
them find room. -/
def warnings (capacity : Option Nat) (text : List Char) : List Record :=
  if Fits capacity (text.flatMap charBytes) then [] else [.refused ByteWriter.refusal]

/-- One character goes to a writer: as many of its bytes as there is room for are held, and there
is a warning unless all of them are. -/
theorem Sink.emit_bytes {w : ByteWriter} {before : List Char}
    (h : w.Holds (before.flatMap charBytes)) (c : Char) :
    ∃ w', w'.capacity = w.capacity ∧ w'.Holds ((before ++ [c]).flatMap charBytes) ∧
      Sink.emit (.bytes w) c = (.bytes w', warnings w.capacity (before ++ [c])) := by
  have hbytes : (before ++ [c]).flatMap charBytes = before.flatMap charBytes ++ charBytes c := by
    simp
  obtain ⟨hholds, hcapacity, hanswer⟩ := h.write (charBytes c)
  refine ⟨(w.write (charBytes c)).1, hcapacity, hbytes ▸ hholds, ?_⟩
  unfold emit warnings
  rw [hbytes]
  simp only [hanswer (charBytes_ne_nil c)]

/-- The records that signals leave in a log if these characters were written before: their own,
and a warning for each character whose bytes do not all find room. -/
def reports (capacity : Option Nat) : List Char → List Signal → List Record
  | _, [] => []
  | before, .note record :: rest => record :: reports capacity before rest
  | before, .emit c :: rest =>
      warnings capacity (before ++ [c]) ++ reports capacity (before ++ [c]) rest

namespace Machine

/-- A writer is given the bytes of the characters sent out, and warns of those that find no room. -/
theorem foldl_accept_bytes (signals : List Signal) :
    ∀ (e : Engine) (w : ByteWriter) (log : Array Record) (before : List Char),
      w.Holds (before.flatMap charBytes) →
      ∃ w', (signals.foldl accept ⟨e, .bytes w, log⟩).sink = .bytes w' ∧
        w'.capacity = w.capacity ∧
        w'.Holds ((before ++ signals.flatMap Signal.characters).flatMap charBytes) ∧
        (signals.foldl accept ⟨e, .bytes w, log⟩).log.toList =
          log.toList ++ reports w.capacity before signals := by
  induction signals with
  | nil =>
      intro e w log before h
      exact ⟨w, rfl, rfl, by simpa using h, by simp [reports]⟩
  | cons signal rest ih =>
      intro e w log before h
      cases signal with
      | note record =>
          obtain ⟨w', hsink, hcapacity, hholds, hlog⟩ := ih e w (log.push record) before h
          refine ⟨w', hsink, hcapacity, by simpa [Signal.characters] using hholds, ?_⟩
          rw [List.foldl_cons, accept, note, hlog, reports, Array.toList_push, List.append_assoc]
          rfl
      | emit c =>
          obtain ⟨w₁, hcapacity₁, hholds₁, hemit⟩ := Sink.emit_bytes h c
          have haccept : accept ⟨e, .bytes w, log⟩ (.emit c) =
              ⟨e, .bytes w₁, log ++ warnings w.capacity (before ++ [c])⟩ := by
            simp only [accept, hemit]
          obtain ⟨w', hsink, hcapacity, hholds, hlog⟩ :=
            ih e w₁ (log ++ warnings w.capacity (before ++ [c])) (before ++ [c]) hholds₁
          rw [List.foldl_cons, haccept]
          refine ⟨w', hsink, hcapacity.trans hcapacity₁, ?_, ?_⟩
          · simpa [Signal.characters] using hholds
          · rw [hlog, hcapacity₁, reports, Array.toList_appendList, List.append_assoc]

/-- A receiver that listens is sent every character. -/
theorem sink_foldl_accept_channel (signals : List Signal) :
    ∀ (e : Engine) (received : String) (log : Array Record),
      (signals.foldl accept ⟨e, .channel received, log⟩).sink =
        .channel (String.ofList (received.toList ++ signals.flatMap Signal.characters)) := by
  induction signals with
  | nil => intro e received log; simp
  | cons signal rest ih =>
      intro e received log
      cases signal with
      | note record => exact ih e received (log.push record)
      | emit c =>
          refine (ih e (received.push c) (log ++ ([] : List Record))).trans ?_
          simp [Signal.characters]

/-- A sink that drops everything warns of nothing. -/
theorem log_foldl_accept_discard (signals : List Signal) :
    ∀ (e : Engine) (log : Array Record) (before : List Char),
      (signals.foldl accept ⟨e, .discard, log⟩).log.toList =
        log.toList ++ reports none before signals := by
  induction signals with
  | nil => intro e log before; simp [reports]
  | cons signal rest ih =>
      intro e log before
      cases signal with
      | note record =>
          have hnext := ih e (log.push record) before
          simpa [reports, accept, note] using hnext
      | emit c =>
          have hnext := ih e (log ++ ([] : List Record)) (before ++ [c])
          simpa [reports, warnings, Fits, accept, Sink.emit] using hnext

end Machine

/-- A sink sees exactly what the program writes, and can never disturb the run.  After every history
a writer with room for a number of bytes, or for any number, holds the first so many bytes of the
transcript, a receiver has got the transcript, and the log has a warning for each character whose
bytes did not all find room and for no other.  The bytes of a character are the one byte of its
number up to 255, and its code in UTF-8 above.  Answers and engine are those of the run whose output
is dropped. -/
theorem sink_holds_transcript (p : Program) (capacity : Option Nat) (calls : List Call) :
    let dropping : Machine := { engine := .load p }
    let writing : Machine := { engine := .load p, sink := .bytes { capacity := capacity } }
    let sending : Machine := { engine := .load p, sink := .channel "" }
    let transcript := (Engine.load p).transcript calls
    let signals := (Engine.load p).signals calls
    (writing.after calls).sink.held = cut capacity (transcript.flatMap charBytes) ∧
    (writing.after calls).log.toList = reports capacity [] signals ∧
    (dropping.after calls).log.toList = reports none [] signals ∧
    signals.flatMap Signal.characters = transcript ∧
    (sending.after calls).sink = .channel (String.ofList transcript) ∧
    (∀ sink : Sink,
      let m : Machine := { engine := .load p, sink := sink }
      m.answers calls = dropping.answers calls ∧
        (m.after calls).engine = (dropping.after calls).engine) ∧
    ∀ c : Char,
      (c.toNat ≤ 0xFF → ∃ b : UInt8, b.toNat = c.toNat ∧ charBytes c = [b]) ∧
      (0xFF < c.toNat → charBytes c = String.utf8EncodeChar c) := by
  intro dropping writing sending transcript signals
  have htranscript : signals.flatMap Signal.characters = transcript :=
    (Engine.transcript_eq calls (Engine.load p)).symm
  have hempty : ({ capacity := capacity } : ByteWriter).Holds [] := by
    cases capacity with
    | none => rfl
    | some n => exact List.take_nil.symm
  obtain ⟨w, hsink, hcapacity, hholds, hlog⟩ :=
    Machine.foldl_accept_bytes signals ((Engine.load p).after calls) { capacity := capacity } #[] []
      hempty
  have hwriting : writing.after calls = signals.foldl Machine.accept
      ⟨(Engine.load p).after calls, .bytes { capacity := capacity }, #[]⟩ :=
    Machine.after_eq_advance calls writing
  have hsending : sending.after calls = signals.foldl Machine.accept
      ⟨(Engine.load p).after calls, .channel "", #[]⟩ :=
    Machine.after_eq_advance calls sending
  have hdropping : dropping.after calls = signals.foldl Machine.accept
      ⟨(Engine.load p).after calls, .discard, #[]⟩ :=
    Machine.after_eq_advance calls dropping
  refine ⟨?_, ?_, ?_, htranscript, ?_, ?_, fun c => ⟨charBytes_of_le, charBytes_of_lt⟩⟩
  · rw [List.nil_append, htranscript] at hholds
    unfold ByteWriter.Holds at hholds
    rw [hcapacity] at hholds
    rw [hwriting, hsink]
    exact hholds
  · rw [hwriting, hlog]
    rfl
  · rw [hdropping, Machine.log_foldl_accept_discard]
    rfl
  · rw [hsending, Machine.sink_foldl_accept_channel, htranscript]
    rfl
  · intro sink m
    rw [Machine.answers_eq, Machine.answers_eq, Machine.after_eq_advance, Machine.after_eq_advance,
      Machine.engine_advance, Machine.engine_advance]
    exact ⟨rfl, rfl⟩

/-- A cell of minus one is written twice, each time as the three bytes of U+FFFD, to a writer with
room for two.  The first character is cut, the second finds no room at all, and there is a warning
for both. -/
theorem sink_holds_transcript_of_full_writer :
    let p := Program.ofList [.decrement, .output, .output]
    let calls : List Call := List.replicate 171 .tick
    let writing : Machine := { engine := .load p, sink := .bytes { capacity := some 2 } }
    (Engine.load p).transcript calls = [Char.ofNat 0xFFFD, Char.ofNat 0xFFFD] ∧
      charBytes (Char.ofNat 0xFFFD) = [0xEF, 0xBF, 0xBD] ∧
      (writing.after calls).sink.held = [0xEF, 0xBF] ∧
      (writing.after calls).log.toList.count (.refused ByteWriter.refusal) = 2 := by
  intro p calls writing
  obtain ⟨hheld, hlog, -, -, -, -, hbytes⟩ := sink_holds_transcript p (some 2) calls
  obtain ⟨htranscript, hwarnings⟩ :
      (Engine.load p).transcript calls = [Char.ofNat 0xFFFD, Char.ofNat 0xFFFD] ∧
        (reports (some 2) [] ((Engine.load p).signals calls)).count
          (.refused ByteWriter.refusal) = 2 := by decide +kernel
  have hthree : charBytes (Char.ofNat 0xFFFD) = [0xEF, 0xBF, 0xBD] := by
    rw [(hbytes (Char.ofNat 0xFFFD)).2 (by decide)]
    decide +kernel
  refine ⟨htranscript, hthree, ?_, ?_⟩
  · rw [hheld, htranscript, List.flatMap_cons, hthree]
    rfl
  · rw [hlog]
    exact hwarnings

end TapeConsole
