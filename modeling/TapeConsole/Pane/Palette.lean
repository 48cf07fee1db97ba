import TapeConsole.Screen.Style
set_option autoImplicit false

/-!
# The palette

The colours the panes are drawn in, by their meaning.
-/

namespace TapeConsole.Palette

/-- Plain text. -/
def text : Color := .rgb 0xcd 0xd6 0xf4

/-- Moves, and the badge of a running program. -/
def primary : Color := .rgb 0x89 0xb4 0xfa

/-- Input and output. -/
def secondary : Color := .rgb 0xfa 0xb3 0x87

/-- What stands in the background: separators, remarks, keys. -/
def comment : Color := .rgb 0x6c 0x70 0x86

/-- Loops, and the badge of a halted program. -/
def success : Color := .rgb 0xa6 0xe3 0xa1

/-- Faults, the current instruction and the current cell. -/
def error : Color := .rgb 0xf3 0x8b 0xa8

/-- The numbers in the cells. -/
def number : Color := text

/-- The characters in the cells. -/
def glyph : Color := secondary

/-- A border that asks for attention. -/
def borderFocused : Color := .rgb 0xf9 0xe2 0xaf

/-- Any other border. -/
def borderNormal : Color := comment

/-- The status bar. -/
def bar : Color := .rgb 0x32 0x32 0x46

/-- The style of a border. -/
def border (focused : Bool) : Style :=
  if focused then { fg := some borderFocused, bold := true } else { fg := some borderNormal }

end TapeConsole.Palette
