import TapeConsole.Proofs.Passes
import TapeConsole.Proofs.Refinement
set_option autoImplicit false

/-!
# Copying the input

The program `,[.,]` copies its input up to the first zero byte.  That a headless run
of it writes the very bytes it has read takes three facts: the flat run of the
program, followed from one input instruction to the next (`Program.haltsIn_echo`);
that the headless run makes the steps of the flat run; and that a byte read in is a
character that is written as that byte (`charBytes_ofUInt8`).

What a headless run of any program has written is a function of its output
(`Headless.holds_output_of_ends`), since every character of the output has been
passed on to the writer.
-/

namespace TapeConsole

/-! ## Bytes and characters -/

theorem toNat_ofUInt8 (b : UInt8) : (Char.ofUInt8 b).toNat = b.toNat := rfl

theorem toInt_ofNat_toNat (b : UInt8) : (Int64.ofNat b.toNat).toInt = b.toNat := by
  have hlt := b.toNat_lt
  exact Int64.toInt_ofNat_of_lt (by omega)

/-- A byte that is stored in a cell prints as the character with its code point. -/
theorem prints_ofUInt8 (b : UInt8) : Prints (Int64.ofNat b.toNat) (Char.ofUInt8 b) := by
  left
  rw [toInt_ofNat_toNat, toNat_ofUInt8]

theorem charBytes_ofUInt8 (b : UInt8) : charBytes (Char.ofUInt8 b) = [b] := by
  have hlt := b.toNat_lt
  have hle : (Char.ofUInt8 b).toNat ≤ 0xFF := by
    rw [toNat_ofUInt8]
    omega
  rw [charBytes, if_pos hle, toNat_ofUInt8]
  simp

theorem flatMap_charBytes_map_ofUInt8 (bytes : List UInt8) :
    (bytes.map Char.ofUInt8).flatMap charBytes = bytes := by
  induction bytes with
  | nil => rfl
  | cons b rest ih => rw [List.map_cons, List.flatMap_cons, charBytes_ofUInt8, ih]; rfl

/-! ## What a headless run has written -/

/-- Without a reset everything written is still in the output. -/
theorem Engine.transcript_of_no_reset (calls : List Call) :
    ∀ e : Engine, Call.reset ∉ calls → e.transcript calls = (e.after calls).output.toList := by
  induction calls with
  | nil => intro e _; rfl
  | cons c rest ih =>
      intro e hreset
      have hrest := ih (e.call c).engine fun hmem => hreset (List.mem_cons_of_mem c hmem)
      cases c with
      | reset => exact absurd List.mem_cons_self hreset
      | tick => exact hrest
      | deliver v => exact hrest

namespace Headless

/-- The summary of a run that has ended well is that of its last state. -/
theorem summary_of_ends {limit : Option Nat} {s s' : State} {summary : Summary}
    (h : Ends limit s s' (.ok summary)) : summary = s'.summary := by
  obtain ⟨fuel, hfuel⟩ := h
  induction fuel generalizing s with
  | zero => cases hfuel
  | succ fuel ih =>
      cases s.pass_end limit with
      | stopped _ hstep => rw [runFor_of_ended hstep] at hfuel; cases hfuel
      | unread _ _ hstep => rw [runFor_of_ended hstep] at hfuel; cases hfuel
      | faults _ _ _ hstep => rw [runFor_of_ended hstep] at hfuel; cases hfuel
      | goes _ _ hstep =>
          rw [runFor_of_going hstep] at hfuel
          exact ih hfuel
      | ends _ _ hstep =>
          rw [runFor_of_ended hstep] at hfuel
          cases hfuel
          rfl

/-- A writer that has taken some characters before holds them and the output of the run, as far as
there is room. -/
theorem holds_output_of_ends {source : String} {reader : List ReadEvent} {writer : ByteWriter}
    {before : List Char} (hwriter : writer.Holds (before.flatMap charBytes)) {limit : Option Nat}
    {s : State} {result : Except Failure Summary}
    (h : Ends limit (.start source reader writer) s result) :
    ∃ w : ByteWriter, s.machine.sink = .bytes w ∧ w.capacity = writer.capacity ∧
      w.Holds ((before ++ s.machine.engine.output.toList).flatMap charBytes) := by
  obtain ⟨fuel, hfuel⟩ := h
  obtain ⟨calls, hreset, hmachine⟩ :=
    State.exists_calls_passes limit fuel (.start source reader writer)
  rw [passes_of_runFor hfuel] at hmachine
  have hengine : s.machine.engine = (Engine.ofSource source).after calls := by
    rw [hmachine, Machine.engine_after]
    rfl
  have houtput : ((Engine.ofSource source).signals calls).flatMap Signal.characters =
      s.machine.engine.output.toList := by
    rw [hengine, ← Engine.transcript_of_no_reset calls _ hreset, Engine.transcript_eq]
    rfl
  obtain ⟨w, hsink, hcapacity, hholds, -⟩ :=
    Machine.foldl_accept_bytes ((Engine.ofSource source).signals calls)
      ((Engine.ofSource source).after calls) writer #[] before hwriter
  refine ⟨w, ?_, hcapacity, houtput ▸ hholds⟩
  rw [hmachine, Machine.after_eq_advance]
  exact hsink

/-- A writer that never refuses has the bytes of all the output. -/
theorem written_of_ends {source : String} {reader : List ReadEvent} {held : Array UInt8}
    {limit : Option Nat} {s : State} {result : Except Failure Summary}
    (h : Ends limit (.start source reader ⟨held, none⟩) s result) :
    s.written = held.toList ++ s.machine.engine.output.toList.flatMap charBytes := by
  have hwriter : (⟨held, none⟩ : ByteWriter).Holds
      ((held.toList.map Char.ofUInt8).flatMap charBytes) :=
    (flatMap_charBytes_map_ofUInt8 held.toList).symm
  obtain ⟨⟨bytes, capacity⟩, hsink, rfl, hholds⟩ := holds_output_of_ends hwriter h
  rw [List.flatMap_append, flatMap_charBytes_map_ofUInt8] at hholds
  unfold State.written
  rw [hsink]
  exact hholds

end Headless

/-! ## The program -/

namespace Program

/-- The program that copies its input. -/
def echo : Program := .ofList [.input, .loopStart, .output, .input, .loopEnd]

theorem echo_joins : echo.Joins 1 4 := by
  have hcode : echo.toList = [.input] ++ .loopStart :: ([.output, .input] ++ .loopEnd :: []) := rfl
  exact joins_of_toList_eq hcode
    (.plain (by simp) (by simp) (.plain (by simp) (by simp) .nil))

/-- At a zero the loop is left, and the program ends. -/
theorem haltsIn_echo_of_zero {s : Store} (h : s.tape.read = 0) : echo.HaltsIn 1 ⟨4, s⟩ s :=
  .next (.stay (d := .backward) rfl (by simp [Direction.jumps, h])) (.done rfl)

/-- From the input instruction in the loop, a byte that is not zero takes three steps: it is read,
the loop goes on, and it is written.  A zero, or the end of the input, takes two.  The induction is
on the bytes not read yet. -/
theorem haltsIn_echo (bytes : List UInt8) :
    ∀ (t : EndlessTape) (output : String),
      ∃ final, echo.HaltsIn (2 + 3 * (bytes.takeWhile (· ≠ 0)).length) ⟨3, ⟨t, bytes, output⟩⟩ final ∧
        final.output.toList =
          output.toList ++ (bytes.takeWhile (· ≠ 0)).map Char.ofUInt8 ∧
        final.tape = t.write 0 := by
  induction bytes with
  | nil =>
      intro t output
      have hread : echo.Moves ⟨3, ⟨t, [], output⟩⟩ ⟨4, ⟨t.write 0, [], output⟩⟩ :=
        .act (a := .input) rfl (.ended rfl)
      exact ⟨_, .next hread (haltsIn_echo_of_zero (t.read_write 0)), by simp, rfl⟩
  | cons b rest ih =>
      intro t output
      have hread : echo.Moves ⟨3, ⟨t, b :: rest, output⟩⟩
          ⟨4, ⟨t.write (Int64.ofNat b.toNat), rest, output⟩⟩ :=
        .act (a := .input) rfl (.byte rfl)
      by_cases hb : b = 0
      · subst hb
        exact ⟨_, .next hread (haltsIn_echo_of_zero (t.read_write 0)), by simp, rfl⟩
      · have hnonzero : Int64.ofNat b.toNat ≠ 0 := by
          intro hzero
          have hcode := toInt_ofNat_toNat b
          rw [hzero] at hcode
          exact hb (UInt8.toNat_inj.mp (Int.ofNat.inj hcode.symm))
        have hturn : echo.Moves ⟨4, ⟨t.write (Int64.ofNat b.toNat), rest, output⟩⟩
            ⟨2, ⟨t.write (Int64.ofNat b.toNat), rest, output⟩⟩ :=
          .jump (d := .backward) rfl (by simp [Direction.jumps, t.read_write, hnonzero])
            (.inr echo_joins)
        have hwrite : echo.Moves ⟨2, ⟨t.write (Int64.ofNat b.toNat), rest, output⟩⟩
            ⟨3, ⟨t.write (Int64.ofNat b.toNat), rest, output.push (Char.ofUInt8 b)⟩⟩ := by
          refine .act (a := .output) rfl (.output ?_)
          rw [t.read_write]
          exact prints_ofUInt8 b
        obtain ⟨final, hrun, houtput, htape⟩ :=
          ih (t.write (Int64.ofNat b.toNat)) (output.push (Char.ofUInt8 b))
        have htake : (b :: rest).takeWhile (· ≠ 0) = b :: rest.takeWhile (· ≠ 0) := by
          simp [hb]
        refine ⟨final, ?_, ?_, ?_⟩
        · rw [htake, List.length_cons, Nat.mul_succ]
          exact .next hread (.next hturn (.next hwrite hrun))
        · rw [houtput, htake]
          simp
        · rw [htape, EndlessTape.write_write]

/-- The program begins as if it came from inside the loop, because both brackets of a loop do the
same. -/
theorem haltsIn_echo_start {n : Nat} {s final : Store} (h : echo.HaltsIn n ⟨3, s⟩ final) :
    echo.HaltsIn n ⟨0, s⟩ final := by
  obtain ⟨s', hact⟩ := Acts.total .input s
  have hinner : echo.Moves ⟨3, s⟩ ⟨4, s'⟩ := .act (a := .input) rfl hact
  have hfirst : echo.Moves ⟨0, s⟩ ⟨1, s'⟩ := .act (a := .input) rfl hact
  obtain ⟨m, rfl, hrest⟩ := h.uncons hinner
  exact .next hfirst (echo_joins.haltsIn_iff.mp hrest)

end Program

/-- A headless run of `,[.,]` copies its input byte for byte.  Whatever the bytes are, the run ends
well.  The bytes before the first zero byte, all of them if there is none, have been written, and
nothing else; the output is the string of the characters with these code points; the tape is a
single zero cell; and two instructions have been carried out, and three for each byte copied. -/
theorem ends_with_copy_of_input (input : List UInt8) (held : Array UInt8) :
    let copied := input.takeWhile (· ≠ 0)
    ∃ s summary,
      Headless.Ends none (.start ",[.,]" (input.map .byte) ⟨held, none⟩) s (.ok summary) ∧
      s.written = held.toList ++ copied ∧
      summary.output = String.ofList (copied.map Char.ofUInt8) ∧
      summary.cells = [0] ∧ summary.pointer = 0 ∧
      summary.dispatched = 2 + 3 * copied.length := by
  intro copied
  have hprogram : Program.parse ",[.,]" = Program.echo := by decide
  obtain ⟨final, hrun, houtput, htape⟩ := Program.haltsIn_echo input .blank ""
  have hstart := Headless.Represents.start ",[.,]" input ⟨held, none⟩
  rw [hprogram] at hstart
  obtain ⟨s, summary, hends, hcount, htells⟩ :=
    Headless.Represents.ends_of_haltsIn (Program.haltsIn_echo_start hrun) _ hstart
  have hcopied : final.output.toList = copied.map Char.ofUInt8 := houtput
  have hsummary := Headless.summary_of_ends hends
  refine ⟨s, summary, hends, ?_, ?_, ?_, ?_, ?_⟩
  · have hlast : s.machine.engine.output.toList = copied.map Char.ofUInt8 := by
      rw [← hcopied, ← htells.output_eq, hsummary]
      rfl
    rw [Headless.written_of_ends hends, hlast, flatMap_charBytes_map_ofUInt8]
  · rw [htells.output_eq, ← hcopied, String.ofList_toList]
  · rw [htells.cells_eq, htape]
    rfl
  · have hpointer := htells.pointer_eq
    rw [htape] at hpointer
    exact Int.ofNat.inj hpointer
  · rw [hcount]
    exact Nat.zero_add _

end TapeConsole
