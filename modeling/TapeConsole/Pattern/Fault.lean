import TapeConsole.Text.Lines
set_option autoImplicit false

/-!
# Faults of a pattern

A text that is no pattern has a `Fault`: what is wrong and where.  `Fault.report`
shows it under the text, with marks at the place.
-/

namespace TapeConsole.Pattern

/-- A place in the text of a pattern. -/
structure Position where
  /-- The characters before it. -/
  index : Nat := 0
  /-- Its line, counted from one. -/
  line : Nat := 1
  /-- Its column, counted from one. -/
  column : Nat := 1
  deriving DecidableEq, Repr, Inhabited

/-- The place after a character. -/
def Position.after (p : Position) (c : Char) : Position :=
  if c = '\n' then ⟨p.index + 1, p.line + 1, 1⟩ else ⟨p.index + 1, p.line, p.column + 1⟩

/-- A part of the text of a pattern. -/
structure Span where
  start : Position
  stop : Position
  deriving DecidableEq, Repr, Inhabited

namespace Span

/-- Whether a part lies within one line. -/
def isOneLine (s : Span) : Bool := s.start.line = s.stop.line

/-- Whether a part comes before another one. -/
def le (a b : Span) : Bool :=
  a.start.index < b.start.index || (a.start.index = b.start.index && a.stop.index ≤ b.stop.index)

end Span

/-- What is wrong with a pattern. -/
inductive Cause where
  /-- An escape that stands for no character stands in a set. -/
  | setEscape
  /-- A range ends before it starts. -/
  | rangeOrder
  /-- A range starts or ends with something that is no character. -/
  | rangeBound
  | setUnclosed
  /-- A number is too large. -/
  | numberInvalid
  | hexEmpty
  /-- A number stands for no character. -/
  | hexInvalid
  | hexDigit
  | escapeIncomplete
  | escapeUnknown
  /-- Nothing is negated. -/
  | negationDangling
  | negationRepeated (first : Span)
  | flagRepeated (first : Span)
  | flagMissing
  | flagUnknown
  | nameRepeated (first : Span)
  | nameEmpty
  | nameInvalid
  | nameUnclosed
  | groupUnclosed
  | groupUnopened
  /-- Groups and sets are nested too deeply. -/
  | nesting (limit : Nat)
  /-- The most repetitions are fewer than the least. -/
  | countOrder
  | countEmpty
  | countUnclosed
  /-- There is nothing to repeat. -/
  | repetitionMissing
  | boundaryUnclosed
  | boundaryUnknown
  | boundaryIncomplete
  | propertyInvalid
  | backreference
  | lookAround
  /-- A character or property beyond bytes, where bytes are matched. -/
  | bytesOnly
  /-- A part of a character could be matched. -/
  | partialChar
  | propertyUnknown
  | propertyValueUnknown
  /-- Which characters a letter stands for is known among bytes only. -/
  | letterUnknown
  /-- The other case of a letter is known among bytes only. -/
  | caseUnknown
  deriving DecidableEq, Repr, Inhabited

namespace Cause

/-- What is wrong, in words. -/
def message : Cause → String
  | .setEscape => "invalid escape sequence found in character class"
  | .rangeOrder => "invalid character class range, the start must be <= the end"
  | .rangeBound => "invalid range boundary, must be a literal"
  | .setUnclosed => "unclosed character class"
  | .numberInvalid => "decimal literal invalid"
  | .hexEmpty => "hexadecimal literal empty"
  | .hexInvalid => "hexadecimal literal is not a Unicode scalar value"
  | .hexDigit => "invalid hexadecimal digit"
  | .escapeIncomplete => "incomplete escape sequence, reached end of pattern prematurely"
  | .escapeUnknown => "unrecognized escape sequence"
  | .negationDangling => "dangling flag negation operator"
  | .negationRepeated _ => "flag negation operator repeated"
  | .flagRepeated _ => "duplicate flag"
  | .flagMissing => "expected flag but got end of regex"
  | .flagUnknown => "unrecognized flag"
  | .nameRepeated _ => "duplicate capture group name"
  | .nameEmpty => "empty capture group name"
  | .nameInvalid => "invalid capture group character"
  | .nameUnclosed => "unclosed capture group name"
  | .groupUnclosed => "unclosed group"
  | .groupUnopened => "unopened group"
  | .nesting limit =>
      "exceed the maximum number of nested parentheses/brackets (" ++ toString limit ++ ")"
  | .countOrder => "invalid repetition count range, the start must be <= the end"
  | .countEmpty => "repetition quantifier expects a valid decimal"
  | .countUnclosed => "unclosed counted repetition"
  | .repetitionMissing => "repetition operator missing expression"
  | .boundaryUnclosed =>
      "special word boundary assertion is either unclosed or contains an invalid character"
  | .boundaryUnknown =>
      "unrecognized special word boundary assertion, valid choices are: " ++
        "start, end, start-half or end-half"
  | .boundaryIncomplete =>
      "found either the beginning of a special word boundary or a bounded repetition on a " ++
        "\\b with an opening brace, but no closing brace"
  | .propertyInvalid => "invalid Unicode character class"
  | .backreference => "backreferences are not supported"
  | .lookAround => "look-around, including look-ahead and look-behind, is not supported"
  | .bytesOnly => "Unicode not allowed here"
  | .partialChar => "pattern can match invalid UTF-8"
  | .propertyUnknown => "Unicode property not found"
  | .propertyValueUnknown => "Unicode property value not found"
  | .letterUnknown =>
      "Unicode-aware Perl class not found (make sure the unicode-perl feature is enabled)"
  | .caseUnknown =>
      "Unicode-aware case insensitivity matching is not available " ++
        "(make sure the unicode-case feature is enabled)"

/-- The other place that has to do with it. -/
def related? : Cause → Option Span
  | .negationRepeated first => some first
  | .flagRepeated first => some first
  | .nameRepeated first => some first
  | _ => none

end Cause

/-- What is wrong with a pattern, and where. -/
structure Fault where
  cause : Cause
  span : Span
  deriving DecidableEq, Repr, Inhabited

namespace Fault

/-- The places to be marked, from the first. -/
def places (f : Fault) : List Span :=
  match f.cause.related? with
  | none => [f.span]
  | some other => if f.span.le other then [f.span, other] else [other, f.span]

/-- The marks under a line of which `column - 1` columns have been passed. -/
def marks (column : Nat) : List Span → List Char
  | [] => []
  | s :: rest =>
      let gap := s.start.column - column
      let length := max 1 (s.stop.column - s.start.column)
      List.replicate gap ' ' ++ List.replicate length '^' ++ marks (column + gap + length) rest

/-- Text at the right of a number of columns. -/
def padLeft (width : Nat) (text : String) : String :=
  String.ofList (List.replicate (width - text.length) ' ') ++ text

/-- The lines of a pattern with the marks under them; with several lines they are numbered. -/
def markedLines (pattern : String) (f : Fault) : List String :=
  let lines := textLines pattern
  let count := lines.length + (if pattern.endsWith "\n" then 1 else 0)
  let digits := if count ≤ 1 then 0 else (toString count).length
  let margin := if digits = 0 then 4 else digits + 2
  lines.zipIdx.flatMap fun (line, i) =>
    let head := if digits = 0 then "    " else padLeft digits (toString (i + 1)) ++ ": "
    let here := f.places.filter fun s => s.isOneLine && s.start.line = i + 1
    let under := String.ofList (List.replicate margin ' ' ++ marks 1 here)
    if here = [] then [head ++ line] else [head ++ line, under]

/-- Where a part that goes over several lines starts and ends. -/
def extent (s : Span) : String :=
  "on line " ++ toString s.start.line ++ " (column " ++ toString s.start.column ++
    ") through line " ++ toString s.stop.line ++ " (column " ++ toString (s.stop.column - 1) ++ ")"

/-- The text a fault is reported with. -/
def report (pattern : String) (f : Fault) : String :=
  let marked := f.markedLines pattern
  let last := "error: " ++ f.cause.message
  let body :=
    if pattern.contains '\n' then
      let rule := String.ofList (List.replicate 79 '~')
      let extents := (f.places.filter fun s => !s.isOneLine).map extent
      [rule] ++ marked ++ [rule] ++ extents ++ [last]
    else marked ++ [last]
  "\n".intercalate ("regex parse error:" :: body)

end Fault

end TapeConsole.Pattern
