import TapeConsole.Screen.Style
set_option autoImplicit false

/-!
# The screen

A screen is a grid of cells, each a symbol with its style.  Drawing outside
the grid does nothing, so every drawing function is total.
-/

namespace TapeConsole

/-- A rectangle of the screen. -/
structure Area where
  x : Nat
  y : Nat
  width : Nat
  height : Nat
  deriving DecidableEq, Repr, Inhabited

namespace Area

/-- The column after the last. -/
def right (a : Area) : Nat := a.x + a.width

/-- The row after the last. -/
def bottom (a : Area) : Nat := a.y + a.height

/-- Whether there is no cell in it. -/
def isEmpty (a : Area) : Bool := a.width = 0 || a.height = 0

/-- The most cells an area can have. -/
def cellLimit : Nat := 65535

/-- The area at a place with this size.  A size of too many cells is made smaller, and keeps
its ratio of width to height. -/
def ofSize (x y width height : Nat) : Area :=
  if width * height ≤ cellLimit then ⟨x, y, width, height⟩
  else
    let ratio := Float.ofNat width / Float.ofNat height
    let fitted := (Float.ofNat cellLimit / ratio).sqrt
    ⟨x, y, (fitted * ratio).toUInt64.toNat, fitted.toUInt64.toNat⟩

/-- The part of an area within the first columns and rows of a grid. -/
def within (a : Area) (columns rows : Nat) : Area where
  x := a.x
  y := a.y
  width := min a.right columns - a.x
  height := min a.bottom rows - a.y

end Area

/-- One place of the screen. -/
structure Cell where
  /-- The cluster of characters shown. -/
  symbol : String := " "
  /-- How it is shown. -/
  style : Style := {}
  deriving DecidableEq, Repr, Inhabited

/-- A grid of cells, row after row. -/
structure Screen where
  width : Nat
  height : Nat
  cells : Array Cell
  deriving DecidableEq, Repr, Inhabited

namespace Screen

/-- A screen on which nothing is drawn. -/
def blank (width height : Nat) : Screen := ⟨width, height, Array.replicate (width * height) {}⟩

/-- A screen of a size asked for, on which nothing is drawn. -/
def ofSize (width height : Nat) : Screen :=
  let area := Area.ofSize 0 0 width height
  blank area.width area.height

/-- The area of the whole screen. -/
def area (s : Screen) : Area := ⟨0, 0, s.width, s.height⟩

/-- Change the cell in column `x` and row `y`. -/
def modify (s : Screen) (x y : Nat) (f : Cell → Cell) : Screen :=
  if x < s.width ∧ y < s.height then
    { s with cells := s.cells.modify (y * s.width + x) f }
  else s

/-- Show a symbol, its style patched onto that of the cell. -/
def put (s : Screen) (x y : Nat) (symbol : String) (style : Style) : Screen :=
  s.modify x y fun cell => ⟨symbol, style.apply cell.style⟩

/-- Patch a style onto a row of cells. -/
def restyleRow (s : Screen) (x y width : Nat) (style : Style) : Screen :=
  (List.range width).foldl
    (fun s i => s.modify (x + i) y fun cell => { cell with style := style.apply cell.style }) s

/-- Patch a style onto an area. -/
def restyle (s : Screen) (a : Area) (style : Style) : Screen :=
  (List.range a.height).foldl (fun s i => s.restyleRow a.x (a.y + i) a.width style) s

/-- Show one symbol in a row of places. -/
def fillRow (s : Screen) (x y width : Nat) (symbol : String) (style : Style) : Screen :=
  (List.range width).foldl (fun s i => s.put (x + i) y symbol style) s

/-- Show one symbol in a column of places. -/
def fillColumn (s : Screen) (x y height : Nat) (symbol : String) (style : Style) : Screen :=
  (List.range height).foldl (fun s i => s.put x (y + i) symbol style) s

/-- The cells of each row, from the top. -/
def rows (s : Screen) : List (List Cell) :=
  (List.range s.height).map fun y =>
    (s.cells.extract (y * s.width) ((y + 1) * s.width)).toList

end Screen

end TapeConsole
