set_option autoImplicit false

/-!
# Lines of a text

A line ends with a line feed, which a carriage return may precede; the last line
may go without one.
-/

namespace TapeConsole

/-- A line without the carriage return before its line feed. -/
def withoutReturn (line : List Char) : List Char :=
  if line.getLast? = some '\r' then line.dropLast else line

/-- The lines of characters, of which the first `begun` ones, last first, have been seen. -/
def splitLinesFrom (begun : List Char) : List Char → List (List Char)
  | [] => if begun = [] then [] else [begun.reverse]
  | c :: rest =>
      if c = '\n' then withoutReturn begun.reverse :: splitLinesFrom [] rest
      else splitLinesFrom (c :: begun) rest

/-- The lines of a text. -/
def textLines (text : String) : List String := (splitLinesFrom [] text.toList).map String.ofList

end TapeConsole
