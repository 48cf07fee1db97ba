import TapeConsole.Number.Binary64
import TapeConsole.Pane.Palette
import TapeConsole.Screen.Panel
import TapeConsole.View
set_option autoImplicit false

/-!
# The tape pane

The tape is drawn as a strip of boxed cells with an arrow under the current
one.  The boxes get narrower as the tape grows, between `minColumns` and
`maxColumns`.  Their width is found from the drawn width of the tape, in which a
gap counts for less than the column it takes.  So a cell can be left out although
the boxes could be narrower: nine cells in seventy columns get boxes of seven
columns, and eight of those fit.  When not all boxes fit, the cells around the
current one are drawn.
-/

namespace TapeConsole.TapePane

/-- The narrowest box. -/
def minColumns : Nat := 5

/-- The widest box. -/
def maxColumns : Nat := 11

/-- The columns between two boxes. -/
def gapColumns : Nat := 1

/-- The columns of a box, for a tape of this drawn width in a pane of `inner` columns. -/
def boxColumns (inner : Nat) (width : Float) : Nat :=
  let units := if 1.0 ≤ width then width else 1.0
  let fitting := (Binary64.ofFloat (Float.ofNat inner / units)).floorWord
  max minColumns (min fitting maxColumns)

/-- How many boxes fit into `inner` columns, at least one. -/
def slots (inner columns : Nat) : Nat := max 1 ((inner + gapColumns) / (columns + gapColumns))

/-- The first of at most `slots` cells around the pointer. -/
def windowStart (length pointer slots : Nat) : Nat :=
  if length ≤ slots then 0 else min (pointer - slots / 2) (length - slots)

/-- Where the boxes stand in the pane. -/
structure Layout where
  /-- The columns inside the border. -/
  inner : Nat
  /-- The columns of a box. -/
  columns : Nat
  /-- The index of the first cell drawn. -/
  first : Nat
  /-- The number of cells drawn. -/
  count : Nat
  /-- The columns left free before the first box. -/
  indent : Nat
  deriving DecidableEq, Repr, Inhabited

/-- The layout of a view in an area of this width. -/
def layout (v : View) (areaWidth : Nat) : Layout :=
  let inner := areaWidth - 2
  let columns := boxColumns inner v.width
  let slots := slots inner columns
  let count := min v.cells.length slots
  let used := count * (columns + gapColumns) - gapColumns
  { inner, columns, count
    first := windowStart v.cells.length v.pointer slots
    indent := (inner - used) / 2 }

/-- Text of `n` spaces. -/
def blanks (n : Nat) : String := String.ofList (List.replicate n ' ')

/-- Text in the middle of `width` columns, the odd blank at the right; of text that is too
long the end is kept. -/
def centered (text : String) (width : Nat) : String :=
  if width < text.length then
    String.ofList ('…' :: text.toList.drop (text.length - (width - 1)))
  else
    let free := width - text.length
    blanks (free / 2) ++ text ++ blanks (free - free / 2)

/-- The character shown in a cell: printable characters of one byte only. -/
def glyph? (v : Int64) : Option Char :=
  if 32 ≤ v.toInt ∧ v.toInt ≤ 126 then some (Char.ofNat v.toInt.toNat) else none

/-- The text shown for the character of a cell. -/
def glyphText (v : Int64) : String :=
  match glyph? v with
  | some c => "'" ++ c.toString ++ "'"
  | none => ""

/-- The five rows of one cell. -/
structure Box where
  top : List Segment
  value : List Segment
  glyph : List Segment
  bottom : List Segment
  arrow : List Segment
  deriving DecidableEq, Repr, Inhabited

/-- How the current cell and its arrow are drawn. -/
def currentStyle : Style := { fg := some Palette.error, bold := true }

/-- How the edges of the other cells are drawn. -/
def frameStyle : Style := { fg := some Palette.borderNormal }

/-- A side of a box between two corners. -/
def side (start finish : Char) (width : Nat) : String :=
  String.ofList (start :: (List.replicate width '─' ++ [finish]))

/-- The box of a cell of this value. -/
def box (columns : Nat) (value : Int64) (isCurrent : Bool) : Box :=
  let width := columns - 2
  let edge := if isCurrent then currentStyle else frameStyle
  let between (text : String) (color : Color) : List Segment :=
    [⟨"│", edge⟩, ⟨centered text width, { fg := some color }⟩, ⟨"│", edge⟩]
  { top := [⟨side '┌' '┐' width, edge⟩]
    value := between (toString value.toInt) Palette.number
    glyph := between (glyphText value) Palette.glyph
    bottom := [⟨side '└' '┘' width, edge⟩]
    arrow := [⟨centered (if isCurrent then "▲" else "") columns, currentStyle⟩] }

/-- The boxes of the cells drawn. -/
def boxes (v : View) (l : Layout) : List Box :=
  (((v.cells.drop l.first).take l.count).zipIdx l.first).map fun (value, i) =>
    box l.columns value (i = v.pointer)

/-- One row of the strip: the indent, then the row of each box and a gap. -/
def stripRow (l : Layout) (boxes : List Box) (row : Box → List Segment) : Line :=
  ⟨⟨blanks l.indent, {}⟩ :: boxes.flatMap fun b => row b ++ [⟨blanks gapColumns, {}⟩], .left⟩

/-- The strip of cells. -/
def strip (v : View) (l : Layout) : List Line :=
  let bs := boxes v l
  [stripRow l bs Box.top, stripRow l bs Box.value, stripRow l bs Box.glyph,
    stripRow l bs Box.bottom, stripRow l bs Box.arrow]

/-- The lines of the pane: the strip, in the middle of the height. -/
def lines (v : View) (areaWidth areaHeight : Nat) : List Line :=
  let rows := strip v (layout v areaWidth)
  List.replicate ((areaHeight - 2 - rows.length) / 2) ⟨[], .left⟩ ++ rows

/-- The text in the border. -/
def title (v : View) : String :=
  " Tape (" ++ toString v.cells.length ++ " cells, pointer at " ++ toString v.pointer ++ ") "

/-- The pane for an area; its border asks for attention while a value is waited for. -/
def panel (v : View) (a : Area) : Panel where
  lines := lines v a.width a.height
  border := some { title := title v, style := Palette.border v.blocked }

end TapeConsole.TapePane
