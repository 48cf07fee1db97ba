set_option autoImplicit false

/-!
# Styles

A style is a patch: a colour that is not given keeps what was there before, and
bold is only ever added.
-/

namespace TapeConsole

/-- A colour of the screen. -/
inductive Color where
  /-- The black of the terminal. -/
  | black
  /-- A mixture of red, green and blue. -/
  | rgb (red green blue : UInt8)
  deriving DecidableEq, Repr, Inhabited

/-- The colours and the weight of a character, as far as they are given. -/
structure Style where
  /-- The colour of the character. -/
  fg : Option Color := none
  /-- The colour behind it. -/
  bg : Option Color := none
  /-- Whether it is bold. -/
  bold : Bool := false
  deriving DecidableEq, Repr, Inhabited

namespace Style

/-- The style `base` changed to what `patch` gives. -/
def apply (patch base : Style) : Style where
  fg := patch.fg.or base.fg
  bg := patch.bg.or base.bg
  bold := base.bold || patch.bold

@[simp] theorem apply_default (base : Style) : apply {} base = base := by
  simp [apply]

/-- Two patches in a row are one patch. -/
theorem apply_apply (second first base : Style) :
    second.apply (first.apply base) = (second.apply first).apply base := by
  simp [apply, Option.or_assoc, Bool.or_assoc]

end Style

end TapeConsole
