import TapeConsole.Pane.Palette
import TapeConsole.Screen.Panel
import TapeConsole.View
set_option autoImplicit false

/-!
# The program pane

The program is drawn in rows as wide as the pane, the current instruction
marked.  When there are more rows than the pane shows, the rows around the
current instruction are drawn.
-/

namespace TapeConsole.ProgramPane

/-- How an instruction is drawn. -/
def instructionStyle (i : Instruction) : Style :=
  let color := match i with
    | .right | .left => Palette.primary
    | .output | .input => Palette.secondary
    | .loopStart | .loopEnd => Palette.success
    | .increment | .decrement => Palette.text
  { fg := some color, bold := true }

/-- How the current instruction is drawn. -/
def highlightStyle : Style :=
  { fg := some .black, bg := some Palette.error, bold := true }

/-- The first row drawn: the current row is kept in the middle where that is possible. -/
def scrollOffset (currentRow : Option Nat) (total visible : Nat) : Nat :=
  match currentRow with
  | some row => min (row - visible / 2) (total - visible)
  | none => 0

/-- The number of rows of `width` instructions. -/
def rowCount (length width : Nat) : Nat := (length + (width - 1)) / width

/-- One row of the program. -/
def row (v : View) (width r : Nat) : Line :=
  let part := ((v.program.toList.drop (r * width)).take width).zipIdx (r * width)
  ⟨part.map fun (i, position) =>
    ⟨i.toChar.toString,
      if v.highlight = some position then highlightStyle else instructionStyle i⟩, .left⟩

/-- The rows drawn in a pane with room for `visible` rows of `width` instructions. -/
def rows (v : View) (width visible : Nat) : List Line :=
  let total := rowCount v.program.length width
  let offset := scrollOffset (v.highlight.map (· / width)) total visible
  (List.range' offset (min visible (total - offset))).map (row v width)

/-- The text in the border. -/
def title (v : View) : String :=
  " Program (" ++ toString v.program.length ++ " instructions) "

/-- The pane for an area. -/
def panel (v : View) (a : Area) : Panel :=
  let border : Border := { title := title v, style := Palette.border false }
  if v.program.isEmpty then
    { lines := [⟨[⟨"(empty program)", {}⟩], .left⟩]
      style := { fg := some Palette.comment }
      border := some border }
  else
    { lines := rows v (max 1 (a.width - 2)) (max 1 (a.height - 2))
      border := some border }

end TapeConsole.ProgramPane
