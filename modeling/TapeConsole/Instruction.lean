set_option autoImplicit false

/-!
# The eight instructions

The tape language has eight instructions, each written as one character.  Every
other character is a comment.  `Instruction.ofChar?` reads a character and
`Instruction.toChar` writes it back; `ofChar?_eq_some_iff` says that the two
agree.
-/

namespace TapeConsole

/-- One step of a program of the tape language. -/
inductive Instruction where
  /-- Move the pointer one cell to the right. -/
  | right
  /-- Move the pointer one cell to the left. -/
  | left
  /-- Add one to the current cell. -/
  | increment
  /-- Subtract one from the current cell. -/
  | decrement
  /-- Write the current cell as a character. -/
  | output
  /-- Wait for a value and store it in the current cell. -/
  | input
  /-- Skip to the partner if the current cell is zero. -/
  | loopStart
  /-- Go back to the partner if the current cell is not zero. -/
  | loopEnd
  deriving DecidableEq, Repr, Inhabited

namespace Instruction

/-- The instruction written as `c`, or none if `c` belongs to a comment. -/
def ofChar? (c : Char) : Option Instruction :=
  if c = '>' then some .right
  else if c = '<' then some .left
  else if c = '+' then some .increment
  else if c = '-' then some .decrement
  else if c = '.' then some .output
  else if c = ',' then some .input
  else if c = '[' then some .loopStart
  else if c = ']' then some .loopEnd
  else none

/-- The character an instruction is written as. -/
def toChar : Instruction → Char
  | .right => '>'
  | .left => '<'
  | .increment => '+'
  | .decrement => '-'
  | .output => '.'
  | .input => ','
  | .loopStart => '['
  | .loopEnd => ']'

/-- The name an instruction is listed under. -/
def name : Instruction → String
  | .right => "Right"
  | .left => "Left"
  | .increment => "Increment"
  | .decrement => "Decrement"
  | .output => "Output"
  | .input => "Input"
  | .loopStart => "LoopStart"
  | .loopEnd => "LoopEnd"

/-- What an instruction adds to the depth of nesting. -/
def nesting : Instruction → Int
  | .loopStart => 1
  | .loopEnd => -1
  | _ => 0

@[simp] theorem ofChar?_toChar (i : Instruction) : ofChar? i.toChar = some i := by
  cases i <;> rfl

theorem filterMap_map_toChar (is : List Instruction) : (is.map toChar).filterMap ofChar? = is := by
  induction is with
  | nil => rfl
  | cons i is ih => simp [ih]

/-- Reading accepts exactly what writing produces. -/
theorem ofChar?_eq_some_iff {c : Char} {i : Instruction} :
    ofChar? c = some i ↔ c = i.toChar := by
  cases i <;> grind [ofChar?, toChar]

end Instruction

end TapeConsole
