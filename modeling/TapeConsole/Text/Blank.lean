import TapeConsole.Text.CharRanges
set_option autoImplicit false

/-!
# White space

The white space characters, and texts without those at their ends.
-/

namespace TapeConsole

/-- The white space characters. -/
def blankChars : CharRanges :=
  ⟨[(0x9, 0xD), (0x20, 0x20), (0x85, 0x85), (0xA0, 0xA0), (0x1680, 0x1680), (0x2000, 0x200A),
    (0x2028, 0x2029), (0x202F, 0x202F), (0x205F, 0x205F), (0x3000, 0x3000)]⟩

/-- A text without the white space at its ends. -/
def trimBlank (text : String) : String :=
  let inner := (text.toList.dropWhile blankChars.has).reverse.dropWhile blankChars.has
  String.ofList inner.reverse

end TapeConsole
