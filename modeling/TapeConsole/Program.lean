import TapeConsole.Instruction
set_option autoImplicit false

/-!
# Programs

A program is the sequence of instructions left when the comments are removed
from a source text.  `Program.parse` removes them, `Program.text` writes the
instructions without comments, and `parse_text` says that nothing is lost.
-/

namespace TapeConsole

/-- A program of the tape language, ready to be run. -/
structure Program where
  /-- The instructions in the order they stand in the source. -/
  instructions : Array Instruction := #[]
  deriving DecidableEq, Repr, Inhabited

namespace Program

/-- The program with these instructions. -/
def ofList (is : List Instruction) : Program := ⟨is.toArray⟩

/-- The instructions as a list. -/
def toList (p : Program) : List Instruction := p.instructions.toList

/-- Keep the instructions of a source text and drop everything else. -/
def parse (source : String) : Program :=
  ofList (source.toList.filterMap Instruction.ofChar?)

/-- The number of instructions. -/
def length (p : Program) : Nat := p.instructions.size

/-- Whether there is nothing to run. -/
def isEmpty (p : Program) : Bool := p.instructions.isEmpty

/-- The instruction at a position, if there is one. -/
def get? (p : Program) (i : Nat) : Option Instruction := p.instructions[i]?

/-- The program written without comments. -/
def text (p : Program) : String := String.ofList (p.toList.map Instruction.toChar)

@[simp] theorem toList_ofList (is : List Instruction) : (ofList is).toList = is := by
  simp [ofList, toList]

@[simp] theorem ofList_toList (p : Program) : ofList p.toList = p := by
  simp [ofList, toList]

@[simp] theorem length_toList (p : Program) : p.toList.length = p.length := by
  simp [length, toList]

theorem get?_eq_getElem? (p : Program) (i : Nat) : p.get? i = p.toList[i]? := by
  simp [get?, toList]

/-- A program is found again in its own text. -/
@[simp] theorem parse_text (p : Program) : parse p.text = p := by
  rw [parse, text, String.toList_ofList, Instruction.filterMap_map_toChar, ofList_toList]

end Program

end TapeConsole
