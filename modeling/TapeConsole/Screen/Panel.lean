import TapeConsole.Screen.Grid
import TapeConsole.Text.Columns
set_option autoImplicit false

/-!
# Panels

A panel is a piece of styled text for an area of the screen, with or without a
border.  Lines are never wrapped: `Line.fit` cuts a line to the width there is,
and lines below the bottom are dropped.
-/

namespace TapeConsole

/-- A piece of text of one style. -/
structure Segment where
  text : String
  style : Style := {}
  deriving DecidableEq, Repr, Inhabited

/-- At which end of its width a line stands. -/
inductive Align where
  | left
  | right
  deriving DecidableEq, Repr, Inhabited

/-- A line of styled text. -/
structure Line where
  segments : List Segment
  align : Align := .left
  deriving DecidableEq, Repr, Inhabited

/-- A symbol with the style it is drawn in. -/
abbrev Glyph := String × Style

namespace Line

/-- The symbols of a line: the clusters of its segments, without those that take no
column, as line breaks. -/
def glyphs (l : Line) : List Glyph :=
  l.segments.flatMap fun s =>
    ((clusters s.text).filter fun symbol => 0 < columns symbol).map fun symbol => (symbol, s.style)

/-- The part of a line that fits into `width` columns, of which `used` are taken.  A
symbol wider than the whole width is passed over; one that does not fit any more
ends the line. -/
def fit (width : Nat) : (used : Nat) → List Glyph → List Glyph
  | _, [] => []
  | used, (symbol, style) :: rest =>
      if width < columns symbol then fit width used rest
      else if width < used + columns symbol then []
      else (symbol, style) :: fit width (used + columns symbol) rest

/-- The columns a sequence of symbols takes. -/
def span (gs : List Glyph) : Nat := gs.foldr (fun g n => columns g.1 + n) 0

end Line

/-- A frame around a panel. -/
structure Border where
  /-- The text in the top side. -/
  title : String
  /-- How the frame and its title are drawn. -/
  style : Style := {}
  /-- The columns left free at the left of the text. -/
  padding : Nat := 0
  deriving DecidableEq, Repr, Inhabited

/-- Styled text for an area of the screen. -/
structure Panel where
  lines : List Line
  /-- The style of the whole area, border included. -/
  style : Style := {}
  border : Option Border := none
  deriving DecidableEq, Repr, Inhabited

namespace Screen

/-- Show symbols from left to right; a wide one leaves the place after it as it is. -/
def write (s : Screen) (x y : Nat) : List Glyph → Screen
  | [] => s
  | (symbol, style) :: rest =>
      (s.put x y symbol style).write (x + columns symbol) y rest

/-- Show a line in row `y` of a width that starts at column `x`. -/
def drawLine (s : Screen) (x y width : Nat) (l : Line) : Screen :=
  let gs := Line.fit width 0 l.glyphs
  match l.align with
  | .left => s.write x y gs
  | .right => s.write (x + (width - Line.span gs)) y gs

/-- Show lines from the top of an area. -/
def drawLines (s : Screen) (a : Area) (lines : List Line) : Screen :=
  if a.isEmpty then s
  else
    ((lines.take a.height).zipIdx a.y).foldl
      (fun s (l, y) => s.drawLine a.x y a.width l) s

/-- Show a border: the sides, then the corners, then the title. -/
def drawBorder (s : Screen) (a : Area) (b : Border) : Screen :=
  if a.isEmpty then s
  else
    let lastX := a.right - 1
    let lastY := a.bottom - 1
    let s := s.fillColumn a.x a.y a.height "│" b.style
    let s := s.fillRow a.x a.y a.width "─" b.style
    let s := s.fillColumn lastX a.y a.height "│" b.style
    let s := s.fillRow a.x lastY a.width "─" b.style
    let s := s.put lastX lastY "┘" b.style
    let s := s.put lastX a.y "┐" b.style
    let s := s.put a.x lastY "└" b.style
    let s := s.put a.x a.y "┌" b.style
    s.drawLine (a.x + 1) a.y (a.width - 2) ⟨[⟨b.title, {}⟩], .left⟩

end Screen

/-- The inside of an area with a border. -/
def Border.inside (b : Border) (a : Area) : Area where
  x := a.x + 1 + b.padding
  y := a.y + 1
  width := a.width - 2 - b.padding
  height := a.height - 2

/-- Show a panel: its style, its border, then its lines.  The border is drawn around the
part of the area that is on the screen, and the lines where they belong in the whole area. -/
def Screen.draw (s : Screen) (a : Area) (p : Panel) : Screen :=
  let onScreen := a.within s.width s.height
  let s := s.restyle onScreen p.style
  match p.border with
  | none => s.drawLines a p.lines
  | some b =>
      let inside := b.inside a
      let s := (s.drawBorder onScreen b).restyle (inside.within s.width s.height) p.style
      s.drawLines inside p.lines

end TapeConsole
