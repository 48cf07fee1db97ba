set_option autoImplicit false

/-!
# The tape

A tape is a row of signed 64-bit cells, at least one, of which one is current.
It grows by a zero cell when the pointer moves past either end, so it holds
exactly the cells visited so far.

The tape is kept as the cells before the current one (nearest first), the
current cell and the cells after it.  Each move and each change of a cell is
then local, and a pointer outside the cells cannot be written down.  `cells`
and `pointer` give the row and the index of the current cell in it;
`getElem?_pointer_cells` ties them together.
-/

namespace TapeConsole

/-- The cells visited so far, seen from the current one. -/
structure Tape where
  /-- The cells left of the current one, nearest first. -/
  before : List Int64 := []
  /-- The current cell. -/
  current : Int64 := 0
  /-- The cells right of the current one, nearest first. -/
  after : List Int64 := []
  deriving DecidableEq, Repr, Inhabited

namespace Tape

/-- The tape a run starts from: one cell, which is zero. -/
def blank : Tape := {}

/-- The cells from left to right. -/
def cells (t : Tape) : List Int64 := t.before.reverseAux (t.current :: t.after)

/-- The index of the current cell. -/
def pointer (t : Tape) : Nat := t.before.length

/-- The number of cells. -/
def length (t : Tape) : Nat := t.before.length + 1 + t.after.length

/-- The value of the current cell. -/
def read (t : Tape) : Int64 := t.current

/-- Replace the value of the current cell. -/
def write (t : Tape) (v : Int64) : Tape := { t with current := v }

/-- Add one to the current cell, wrapping around at 64 bits. -/
def increment (t : Tape) : Tape := t.write (t.read + 1)

/-- Subtract one from the current cell, wrapping around at 64 bits. -/
def decrement (t : Tape) : Tape := t.write (t.read - 1)

/-- Move to the right, onto a new zero cell if there is none yet. -/
def right (t : Tape) : Tape :=
  match t.after with
  | [] => { before := t.current :: t.before, current := 0, after := [] }
  | c :: rest => { before := t.current :: t.before, current := c, after := rest }

/-- Move to the left, onto a new zero cell if there is none yet. -/
def left (t : Tape) : Tape :=
  match t.before with
  | [] => { before := [], current := 0, after := t.current :: t.after }
  | c :: rest => { before := rest, current := c, after := t.current :: t.after }

/-! ## Drawn width -/

/-- The width of a drawn cell. -/
def cellWidth : Float := 1.0

/-- The width of the gap between two drawn cells. -/
def cellGap : Float := 0.125

/-- The width of `n` drawn cells with the gaps between them. -/
def widthOf (n : Nat) : Float :=
  Float.ofNat n * cellWidth + (Float.ofNat n - 1.0) * cellGap

/-- The width of the drawn tape. -/
def width (t : Tape) : Float := widthOf t.length

/-! ## The row of cells -/

theorem cells_eq (t : Tape) : t.cells = t.before.reverse ++ t.current :: t.after := by
  simp [cells, List.reverseAux_eq]

@[simp] theorem length_cells (t : Tape) : t.cells.length = t.length := by
  simp [cells_eq, length]
  omega

theorem pointer_lt_length (t : Tape) : t.pointer < t.length := by
  simp only [pointer, length]
  omega

/-- The pointer is the index of the current cell. -/
@[simp] theorem getElem?_pointer_cells (t : Tape) : t.cells[t.pointer]? = some t.read := by
  simp [cells_eq, pointer, read]

/-- Writing replaces the value at the pointer and nothing else. -/
theorem cells_write (t : Tape) (v : Int64) :
    (t.write v).cells = t.cells.set t.pointer v := by
  simp [cells_eq, write, pointer]

end Tape

end TapeConsole
