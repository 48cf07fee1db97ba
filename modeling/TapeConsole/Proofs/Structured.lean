import TapeConsole.Engine
import TapeConsole.Proofs.EndlessTape
import TapeConsole.Proofs.Nesting
set_option autoImplicit false

/-!
# Structured programs

A structured program is a list of commands, where a loop holds a list of
commands of its own.  There is no position in it and there are no jumps:
`Evaluates` says what it does in the usual big-step way, on a tape without ends.
A program that runs for ever has no evaluation.

`Command.codes` writes a structured program as instructions, and `Command.text`
as characters.
-/

namespace TapeConsole

/-! ## Syntax -/

/-- The instructions that are no brackets. -/
inductive Action where
  | right
  | left
  | increment
  | decrement
  | output
  | input
  deriving DecidableEq, Repr, Inhabited

/-- The instruction of an action. -/
def Action.instruction : Action → Instruction
  | .right => .right
  | .left => .left
  | .increment => .increment
  | .decrement => .decrement
  | .output => .output
  | .input => .input

/-- A command of a structured program. -/
inductive Command where
  | act (a : Action)
  /-- The body again and again, as long as the current cell is not zero. -/
  | loop (body : List Command)
  deriving Repr, Inhabited

namespace Command

mutual

/-- The instructions of one command. -/
def code : Command → List Instruction
  | .act a => [a.instruction]
  | .loop body => .loopStart :: (codes body ++ [.loopEnd])

/-- The instructions of a list of commands. -/
def codes : List Command → List Instruction
  | [] => []
  | c :: rest => c.code ++ codes rest

end

/-- A list of commands as it is written. -/
def text (commands : List Command) : List Char := (codes commands).map Instruction.toChar

theorem codes_act_cons (a : Action) (rest : List Command) :
    codes (.act a :: rest) = a.instruction :: codes rest := rfl

theorem codes_loop_cons (body rest : List Command) :
    codes (.loop body :: rest) = .loopStart :: (codes body ++ .loopEnd :: codes rest) := by
  simp [codes, code]

theorem balanced_action (a : Action) : Balanced [a.instruction] := by
  refine .plain ?_ ?_ .nil <;> cases a <;> simp [Action.instruction]

mutual

theorem balanced_code : ∀ c : Command, Balanced c.code
  | .act a => balanced_action a
  | .loop body => .loop (balanced_codes body) .nil

/-- The brackets of a structured program are nested. -/
theorem balanced_codes : ∀ commands : List Command, Balanced (codes commands)
  | [] => .nil
  | c :: rest => (balanced_code c).append (balanced_codes rest)

end

end Command

/-! ## Evaluation -/

/-- What a structured program works on. -/
structure Store where
  tape : EndlessTape := .blank
  /-- The bytes not read yet. -/
  input : List UInt8 := []
  output : String := ""

/-- A value prints as the character with that code point, or as U+FFFD if there is none. -/
def Prints (v : Int64) (c : Char) : Prop :=
  (c.toNat : Int) = v.toInt ∨
    ((∀ d : Char, (d.toNat : Int) ≠ v.toInt) ∧ c = Char.ofNat 0xFFFD)

/-- What the actions do.  The end of the input reads as zero. -/
inductive Acts : Action → Store → Store → Prop where
  | right (s : Store) : Acts .right s { s with tape := s.tape.right }
  | left (s : Store) : Acts .left s { s with tape := s.tape.left }
  | increment (s : Store) : Acts .increment s { s with tape := s.tape.increment }
  | decrement (s : Store) : Acts .decrement s { s with tape := s.tape.decrement }
  | output {s : Store} {c : Char} (hprints : Prints s.tape.read c) :
      Acts .output s { s with output := s.output.push c }
  | byte {s : Store} {b : UInt8} {rest : List UInt8} (hinput : s.input = b :: rest) :
      Acts .input s { s with tape := s.tape.write (Int64.ofNat b.toNat), input := rest }
  | ended {s : Store} (hinput : s.input = []) :
      Acts .input s { s with tape := s.tape.write 0 }

/-- Evaluating a list of commands in a store ends in another store.  A loop looks at the current
cell before every turn. -/
inductive Evaluates : List Command → Store → Store → Prop where
  | nil (s : Store) : Evaluates [] s s
  | act {a : Action} {rest : List Command} {s s' final : Store} (hact : Acts a s s')
      (hrest : Evaluates rest s' final) : Evaluates (.act a :: rest) s final
  | skip {body rest : List Command} {s final : Store} (hzero : s.tape.read = 0)
      (hrest : Evaluates rest s final) : Evaluates (.loop body :: rest) s final
  | turn {body rest : List Command} {s s' final : Store} (hnonzero : s.tape.read ≠ 0)
      (hbody : Evaluates body s s') (hagain : Evaluates (.loop body :: rest) s' final) :
      Evaluates (.loop body :: rest) s final

/-! ## Actions are functions -/

theorem prints_cellChar (v : Int64) : Prints v (cellChar v) := by
  unfold cellChar
  by_cases hvalid : 0 ≤ v.toInt ∧ v.toInt.toNat.isValidChar
  · rw [dif_pos hvalid]
    left
    have hcode : (Char.ofNatAux v.toInt.toNat hvalid.2).toNat = v.toInt.toNat := rfl
    rw [hcode]
    exact Int.toNat_of_nonneg hvalid.1
  · rw [dif_neg hvalid]
    refine .inr ⟨?_, rfl⟩
    intro d hd
    refine hvalid ⟨by omega, ?_⟩
    rw [← hd, Int.toNat_natCast]
    exact d.valid

theorem Prints.unique {v : Int64} {c c' : Char} (h : Prints v c) (h' : Prints v c') : c = c' := by
  rcases h with h | ⟨hnone, rfl⟩
  · rcases h' with h' | ⟨hnone', -⟩
    · have hcode : c.toNat = c'.toNat := by omega
      exact Char.toNat_inj.mp hcode
    · exact absurd h (hnone' c)
  · rcases h' with h' | ⟨-, rfl⟩
    · exact absurd h' (hnone c')
    · rfl

/-- Every action can be carried out. -/
theorem Acts.total (a : Action) (s : Store) : ∃ s', Acts a s s' := by
  cases a with
  | right => exact ⟨_, .right s⟩
  | left => exact ⟨_, .left s⟩
  | increment => exact ⟨_, .increment s⟩
  | decrement => exact ⟨_, .decrement s⟩
  | output => exact ⟨_, .output (prints_cellChar s.tape.read)⟩
  | input =>
      cases hinput : s.input with
      | nil => exact ⟨_, .ended hinput⟩
      | cons b rest => exact ⟨_, .byte hinput⟩

/-- Every action has one result. -/
theorem Acts.unique {a : Action} {s s' s'' : Store} (h : Acts a s s') (h' : Acts a s s'') :
    s' = s'' := by
  cases h with
  | right => cases h'; rfl
  | left => cases h'; rfl
  | increment => cases h'; rfl
  | decrement => cases h'; rfl
  | output hprints =>
      cases h' with
      | output hprints' => rw [hprints.unique hprints']
  | byte hinput =>
      cases h' with
      | byte hinput' =>
          obtain ⟨rfl, rfl⟩ := List.cons.inj (hinput.symm.trans hinput')
          rfl
      | ended hinput' => cases hinput.symm.trans hinput'
  | ended hinput =>
      cases h' with
      | byte hinput' => cases hinput.symm.trans hinput'
      | ended => rfl

end TapeConsole
