import TapeConsole.Pattern.Fault
set_option autoImplicit false

/-!
# Properties of characters

A pattern can name a set of characters by a property.  Which characters have a
property is not known here, so a pattern with one is refused; the name decides
with which cause.
-/

namespace TapeConsole.Pattern

/-- A property as a pattern names it. -/
inductive Property where
  /-- A name by itself. -/
  | named (name : String)
  /-- A property and its value. -/
  | valued (name value : String)
  deriving DecidableEq, Repr, Inhabited

namespace Property

/-- Names are compared without their case, blanks, dashes, underscores and a leading `is`. -/
def normalize (name : String) : String :=
  let letters (cs : List Char) : List Char :=
    (cs.filter fun c => c.toNat < 0x80 && c ≠ ' ' && c ≠ '_' && c ≠ '-').map Char.toLower
  match name.toList with
  | i :: s :: rest =>
      if i.toLower = 'i' ∧ s.toLower = 's' then
        let rest := letters rest
        if rest = ['c'] then "isc" else String.ofList rest
      else String.ofList (letters (i :: s :: rest))
  | short => String.ofList (letters short)

/-- The short names that are taken for those of values. -/
def valueNames : List String := ["cf", "sc", "lc"]

/-- Why a property is refused. -/
def cause : Property → Cause
  | .named name =>
      if valueNames.contains (normalize name) then .propertyValueUnknown else .propertyUnknown
  | .valued _ _ => .propertyUnknown

end Property

end TapeConsole.Pattern
