import TapeConsole.Screen.Grid
import TapeConsole.Text.Columns
set_option autoImplicit false

/-!
# Control sequences of a terminal

`Screen.ansi` is the text that makes a terminal show a screen.
-/

namespace TapeConsole.Ansi

/-- A control sequence. -/
def control (text : String) : String := "\x1b[" ++ text

/-- Leave the lines of the shell and start with an empty screen. -/
def enterScreen : String := control "?1049h" ++ control "?25l" ++ control "2J"

/-- Go back to the lines of the shell. -/
def leaveScreen : String := control "?25h" ++ control "?1049l"

/-- The first place of a row. -/
def rowStart (y : Nat) : String := control (toString (y + 1) ++ ";1H")

/-- The parameters that choose a colour, after the number of its layer. -/
def colorParameters (layer : Nat) : Option Color → List String
  | none => []
  | some .black => [toString layer ++ "0"]
  | some (.rgb r g b) =>
      [toString layer ++ "8", "2", toString r.toNat, toString g.toNat, toString b.toNat]

/-- The sequence that chooses exactly this style. -/
def style (s : Style) : String :=
  let parameters :=
    ["0"] ++ (if s.bold then ["1"] else []) ++ colorParameters 3 s.fg ++ colorParameters 4 s.bg
  control (";".intercalate parameters ++ "m")

/-- The cells of a row that are not covered by the one before. -/
def uncovered : (covered : Nat) → List Cell → List Cell
  | _, [] => []
  | covered + 1, _ :: rest => uncovered covered rest
  | 0, cell :: rest => cell :: uncovered (columns cell.symbol - 1) rest

/-- The text of a row. -/
def row (cells : List Cell) : String :=
  String.join ((uncovered 0 cells).map fun cell => style cell.style ++ cell.symbol)

end TapeConsole.Ansi

namespace TapeConsole

/-- The text that makes a terminal show a screen. -/
def Screen.ansi (s : Screen) : String :=
  String.join (s.rows.zipIdx.map fun (cells, y) => Ansi.rowStart y ++ Ansi.row cells) ++
    Ansi.style {}

end TapeConsole
