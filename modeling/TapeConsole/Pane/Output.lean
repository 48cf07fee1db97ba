import TapeConsole.Pane.Palette
import TapeConsole.Screen.Panel
set_option autoImplicit false

/-!
# The output pane

The last lines of the output are drawn, with control characters made visible.
-/

namespace TapeConsole.OutputPane

/-- A control character is shown by its picture, every other one by itself. -/
def picture (c : Char) : Char :=
  if c.toNat < 0x20 then Char.ofNat (0x2400 + c.toNat)
  else if c.toNat = 0x7F then Char.ofNat 0x2421
  else c

/-- The last `height` lines of an output. -/
def tailLines (output : String) (height : Nat) : List String :=
  let all := output.toList.splitOn '\n'
  (all.drop (all.length - height)).map fun line => String.ofList (line.map picture)

/-- The pane for an area. -/
def panel (output : String) (a : Area) : Panel :=
  let border : Border := { title := " Output ", style := Palette.border false }
  if output.isEmpty then
    { lines := [⟨[⟨"(no output)", {}⟩], .left⟩]
      style := { fg := some Palette.comment }
      border := some border }
  else
    { lines := (tailLines output (max 1 (a.height - 2))).map fun text => ⟨[⟨text, {}⟩], .left⟩
      style := { fg := some Palette.text }
      border := some { border with padding := 1 } }

end TapeConsole.OutputPane
