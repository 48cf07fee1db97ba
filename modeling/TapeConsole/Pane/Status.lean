import TapeConsole.Number.Fixed
import TapeConsole.Pane.Palette
import TapeConsole.Screen.Panel
import TapeConsole.View
set_option autoImplicit false

/-!
# The status bar

The left half of the bar shows the state of the run and a message, the right
half the step clock and the keys.
-/

namespace TapeConsole.StatusBar

/-- The word for the state of a run, and its colour. -/
def badge (v : View) : String × Color :=
  if v.fault.isSome then (" FAULT ", Palette.error)
  else if v.halted then (" HALTED ", Palette.success)
  else if v.blocked then (" ⌨ INPUT ", Palette.secondary)
  else (" ▶ RUNNING ", Palette.primary)

/-- The style of the bar. -/
def barStyle : Style := { bg := some Palette.bar }

/-- Text of a colour on the bar. -/
def onBar (color : Color) : Style := { barStyle with fg := some color }

/-- The left half. -/
def left (v : View) (message : String) : Panel :=
  let (word, color) := badge v
  { lines :=
      [⟨[⟨word, { fg := some .black, bg := some color, bold := true }⟩,
        ⟨" | ", onBar Palette.comment⟩,
        ⟨" " ++ message ++ " ", onBar (if v.fault.isSome then Palette.error else Palette.text)⟩],
        .left⟩]
    style := barStyle }

/-- The state of the step clock. -/
def clockText (v : View) : String :=
  " step " ++ toString v.dispatched ++ " │ x" ++ fixedText 2 v.speed ++ " │ " ++
    toString v.acc ++ "/" ++ toString v.threshold ++ " ticks "

/-- The right half. -/
def right (v : View) : Panel :=
  let plain := onBar Palette.text
  let separator : Segment := ⟨"│", onBar Palette.comment⟩
  let key (name : String) : Segment :=
    ⟨name, { fg := some .black, bg := some Palette.comment }⟩
  { lines :=
      [⟨[⟨clockText v, plain⟩,
        separator, ⟨" ", plain⟩, key " ^R ", ⟨" reset ", plain⟩,
        separator, ⟨" ", plain⟩, key " Esc ", ⟨" quit ", plain⟩], .right⟩]
    style := barStyle }

/-- The columns of the left half: half of them, the odd one included. -/
def leftColumns (width : Nat) : Nat := (width + 1) / 2

/-- Draw the bar into an area. -/
def draw (s : Screen) (a : Area) (v : View) (message : String) : Screen :=
  let n := leftColumns a.width
  let s := s.draw { a with width := n } (left v message)
  s.draw { a with x := a.x + n, width := a.width - n } (right v)

end TapeConsole.StatusBar
