import TapeConsole.Screen.Grid
import TapeConsole.Text.Columns
set_option autoImplicit false

/-!
# What a terminal shows

A terminal is not painted anew for every frame: only the places in which a
frame differs from the one before are painted.  The place after a wide symbol is
covered by it and is never painted, so it keeps what was there; it is painted
once the wide symbol is gone.
-/

namespace TapeConsole

/-- A terminal and the frame it was painted with last. -/
structure Display where
  /-- What the terminal shows. -/
  shown : Screen
  /-- The last frame. -/
  frame : Screen
  deriving DecidableEq, Repr, Inhabited

namespace Display

/-- A terminal of this size on which nothing is shown. -/
def blank (width height : Nat) : Display := ⟨.blank width height, .blank width height⟩

/-- The places shown after painting the places `next` of a frame over those of the frame
before; `stale` places lie under a wide symbol of one of the two, and `covered` places
under one of the new frame. -/
def paint : (stale covered : Nat) → (shown previous next : List Cell) → List Cell
  | stale, covered, s :: shown, p :: previous, n :: next =>
      let painted := if covered = 0 ∧ (n ≠ p ∨ 0 < stale) then n else s
      let affected := max (columns n.symbol) (columns p.symbol)
      painted :: paint (max affected stale - 1) (columns n.symbol - 1) shown previous next
  | _, _, shown, _, _ => shown

/-- Paint a frame. -/
def update (d : Display) (frame : Screen) : Display where
  shown := { d.shown with
    cells := (paint 0 0 d.shown.cells.toList d.frame.cells.toList frame.cells.toList).toArray }
  frame := frame

end Display

end TapeConsole
