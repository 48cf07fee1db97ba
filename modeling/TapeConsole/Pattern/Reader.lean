import TapeConsole.Pattern.Fault
import TapeConsole.Text.Blank
set_option autoImplicit false

/-!
# Reading characters

A pattern is read from its text character by character.  A `Reader` is the text
that is left with its place, and a `Read` is a step that takes some of it or stops
with a fault.
-/

namespace TapeConsole.Pattern

/-- A text of which a part has been read. -/
structure Reader where
  /-- The characters left. -/
  rest : List Char
  /-- The place of the first of them. -/
  position : Position := {}
  /-- Blanks and comments are passed over. -/
  verbose : Bool := false
  /-- The names of groups so far. -/
  names : List (String × Span) := []
  deriving DecidableEq, Repr, Inhabited

/-- A step of reading. -/
abbrev Read (α : Type) : Type := StateT Reader (Except Fault) α

/-- The text and the place after blanks and comments. -/
def skipBlanks (inComment : Bool) (p : Position) : List Char → Position × List Char
  | [] => (p, [])
  | c :: rest =>
      if inComment then skipBlanks (c ≠ '\n') (p.after c) rest
      else if blankChars.has c then skipBlanks false (p.after c) rest
      else if c = '#' then skipBlanks true (p.after c) rest
      else (p, c :: rest)

namespace Reader

/-- The text after its first character. -/
def drop (r : Reader) : Reader :=
  match r.rest with
  | [] => r
  | c :: rest => { r with rest, position := r.position.after c }

/-- The text after blanks, if they are passed over. -/
def skip (r : Reader) : Reader :=
  if r.verbose then
    let (position, rest) := skipBlanks false r.position r.rest
    { r with rest, position }
  else r

/-- The part with the first character. -/
def charSpan (r : Reader) : Span :=
  ⟨r.position, match r.rest with
    | [] => r.position
    | c :: _ => r.position.after c⟩

/-- The second character; if blanks are passed over, the first one after them and after one
number sign. -/
def second? (r : Reader) : Option Char :=
  let after := r.rest.drop 1
  let shown := after.dropWhile blankChars.has
  let shown := if shown.head? = some '#' then (shown.drop 1).dropWhile blankChars.has else shown
  if r.verbose then shown.head?.or after.head? else after.head?

end Reader

/-- The first character left. -/
def char? : Read (Option Char) := return (← get).rest.head?

/-- Whether nothing is left. -/
def atEnd : Read Bool := return (← get).rest.isEmpty

/-- The place of the first character left. -/
def position : Read Position := return (← get).position

/-- The part from a place up to here. -/
def spanFrom (start : Position) : Read Span := return ⟨start, ← position⟩

/-- The empty part here. -/
def spanHere : Read Span := do spanFrom (← position)

/-- The part with the first character left. -/
def charSpan : Read Span := return (← get).charSpan

/-- Pass over one character. -/
def bump : Read Unit := modify Reader.drop

/-- Pass over blanks. -/
def skipSpace : Read Unit := modify Reader.skip

/-- Pass over one character and the blanks after it. -/
def advance : Read Unit := do bump; skipSpace

/-- Pass over a text if it is next. -/
def takeIf (text : String) : Read Bool := do
  let r ← get
  if text.toList.isPrefixOf r.rest then
    set (Nat.repeat Reader.drop text.length r)
    return true
  else return false

/-- Pass over the first of some texts that is next. -/
def takeAny : List String → Read Bool
  | [] => return false
  | text :: others => do if ← takeIf text then return true else takeAny others

/-- Stop with a fault. -/
def refuse {α : Type} (cause : Cause) (span : Span) : Read α := throw ⟨cause, span⟩

end TapeConsole.Pattern
