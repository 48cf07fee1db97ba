import TapeConsole.Pattern.Property
import TapeConsole.Text.CharRanges
set_option autoImplicit false

/-!
# Patterns as written

A `Tree` is a pattern as it was written: nothing is left out, and every part
that can have a fault knows its place in the text.
-/

namespace TapeConsole.Pattern

/-- A switch for the part of a pattern after it. -/
inductive Flag where
  /-- The case of letters makes no difference. -/
  | ignoreCase
  /-- The marks for start and end also stand for those of lines. -/
  | multiLine
  /-- The dot stands for line feeds, too. -/
  | dotAll
  /-- Repetitions prefer to be short. -/
  | swapGreed
  /-- Characters are matched, not bytes. -/
  | unicode
  /-- Carriage returns belong to line ends. -/
  | carriageReturns
  /-- Blanks and comments in the pattern are passed over. -/
  | verbose
  deriving DecidableEq, Repr, Inhabited

/-- A switch, or the sign that the switches after it are turned off. -/
inductive FlagItem where
  | flag (flag : Flag)
  | negation
  deriving DecidableEq, Repr, Inhabited

/-- What a list of switches says about one of them. -/
def flagState (flag : Flag) (items : List FlagItem) : Option Bool :=
  let step (state : Bool × Option Bool) (item : FlagItem) : Bool × Option Bool :=
    match item with
    | .negation => (false, state.2)
    | .flag f => if f = flag then (state.1, some state.1) else state
  (items.foldl step (true, none)).2

/-- A set of characters known by a letter. -/
inductive LetterSet where
  | digit
  | space
  | word
  deriving DecidableEq, Repr, Inhabited

/-- A set of ASCII characters known by a name. -/
inductive NamedSet where
  | alnum
  | alpha
  | ascii
  | blank
  | cntrl
  | digit
  | graph
  | lower
  | print
  | punct
  | space
  | upper
  | word
  | xdigit
  deriving DecidableEq, Repr, Inhabited

namespace NamedSet

/-- The set with a name. -/
def ofName? (name : String) : Option NamedSet :=
  let table : List (String × NamedSet) :=
    [("alnum", .alnum), ("alpha", .alpha), ("ascii", .ascii), ("blank", .blank),
      ("cntrl", .cntrl), ("digit", .digit), ("graph", .graph), ("lower", .lower),
      ("print", .print), ("punct", .punct), ("space", .space), ("upper", .upper),
      ("word", .word), ("xdigit", .xdigit)]
  table.lookup name

/-- The members of a set. -/
def chars : NamedSet → CharRanges
  | .alnum => ⟨[(0x30, 0x39), (0x41, 0x5A), (0x61, 0x7A)]⟩
  | .alpha => ⟨[(0x41, 0x5A), (0x61, 0x7A)]⟩
  | .ascii => ⟨[(0x0, 0x7F)]⟩
  | .blank => ⟨[(0x9, 0x9), (0x20, 0x20)]⟩
  | .cntrl => ⟨[(0x0, 0x1F), (0x7F, 0x7F)]⟩
  | .digit => ⟨[(0x30, 0x39)]⟩
  | .graph => ⟨[(0x21, 0x7E)]⟩
  | .lower => ⟨[(0x61, 0x7A)]⟩
  | .print => ⟨[(0x20, 0x7E)]⟩
  | .punct => ⟨[(0x21, 0x2F), (0x3A, 0x40), (0x5B, 0x60), (0x7B, 0x7E)]⟩
  | .space => ⟨[(0x9, 0xD), (0x20, 0x20)]⟩
  | .upper => ⟨[(0x41, 0x5A)]⟩
  | .word => ⟨[(0x30, 0x39), (0x41, 0x5A), (0x5F, 0x5F), (0x61, 0x7A)]⟩
  | .xdigit => ⟨[(0x30, 0x39), (0x41, 0x46), (0x61, 0x66)]⟩

end NamedSet

/-- A condition on a place between two characters. -/
inductive Look where
  | lineStart
  | lineEnd
  | textStart
  | textEnd
  | wordBoundary
  | noWordBoundary
  | wordStart
  | wordEnd
  | wordStartHalf
  | wordEndHalf
  deriving DecidableEq, Repr, Inhabited

/-- A character as it was written. -/
structure Literal where
  span : Span
  char : Char
  /-- It was written as the two digits of a byte. -/
  isByte : Bool := false
  deriving DecidableEq, Repr, Inhabited

/-- How two sets are combined. -/
inductive SetOperator where
  | intersection
  | difference
  | symmetricDifference
  deriving DecidableEq, Repr, Inhabited

/-- A set of characters as it was written. -/
inductive SetTree where
  /-- Nothing, at a place. -/
  | empty (position : Position)
  | literal (literal : Literal)
  | range (start stop : Literal)
  | named (span : Span) (set : NamedSet) (negated : Bool)
  | letter (span : Span) (set : LetterSet) (negated : Bool)
  | property (span : Span) (property : Property) (negated : Bool)
  | bracketed (span : Span) (negated : Bool) (set : SetTree)
  | union (first second : SetTree)
  | combined (operator : SetOperator) (first second : SetTree)
  deriving DecidableEq, Repr, Inhabited

/-- Where a set was written. -/
def SetTree.span : SetTree → Span
  | .empty p => ⟨p, p⟩
  | .literal l => l.span
  | .range start stop => ⟨start.span.start, stop.span.stop⟩
  | .named span _ _ => span
  | .letter span _ _ => span
  | .property span _ _ => span
  | .bracketed span _ _ => span
  | .union first second => ⟨first.span.start, second.span.stop⟩
  | .combined _ first second => ⟨first.span.start, second.span.stop⟩

/-- Add a set to a union. -/
def SetTree.push (union item : SetTree) : SetTree :=
  match union with
  | .empty _ => item
  | _ => .union union item

/-- A pattern as it was written. -/
inductive Tree where
  | empty
  /-- Switches for what follows in the group. -/
  | flags (items : List FlagItem)
  | literal (literal : Literal)
  /-- Any character, except a line feed. -/
  | dot (span : Span)
  | look (span : Span) (look : Look)
  | letter (span : Span) (set : LetterSet) (negated : Bool)
  | property (span : Span) (property : Property) (negated : Bool)
  | bracketed (span : Span) (negated : Bool) (set : SetTree)
  /-- At least and, if there is a limit, at most so many times. -/
  | repeated (span : Span) (least : Nat) (most : Option Nat) (tree : Tree)
  /-- A part in parentheses, which may be remembered, with switches of its own. -/
  | group (span : Span) (remembered : Bool) (flags : List FlagItem) (tree : Tree)
  | sequence (span : Span) (items : List Tree)
  | choice (span : Span) (branches : List Tree)
  deriving Repr, Inhabited

/-- Where a pattern was written, as far as a repetition of it has to know. -/
def Tree.start? : Tree → Option Position
  | .empty => none
  | .flags _ => none
  | .literal l => some l.span.start
  | .dot span => some span.start
  | .look span _ => some span.start
  | .letter span _ _ => some span.start
  | .property span _ _ => some span.start
  | .bracketed span _ _ => some span.start
  | .repeated span _ _ _ => some span.start
  | .group span _ _ _ => some span.start
  | .sequence span _ => some span.start
  | .choice span _ => some span.start

/-! ## Nesting -/

/-- How deeply groups and sets can be nested. -/
def nestLimit : Nat := 250

/-- One level deeper than `depth`. -/
def deeper (depth : Nat) (span : Span) : Except Fault Nat :=
  if depth < nestLimit then .ok (depth + 1) else .error ⟨.nesting nestLimit, span⟩

/-- Check how deeply a set is nested; the parts of a union are on one level. -/
def SetTree.checkNesting (depth : Nat) (inUnion : Bool) : SetTree → Except Fault Unit
  | .bracketed span _ set => do set.checkNesting (← deeper depth span) false
  | .union first second => do
      let depth ← if inUnion then pure depth else deeper depth (SetTree.union first second).span
      first.checkNesting depth true
      second.checkNesting depth false
  | .combined operator first second => do
      let depth ← deeper depth (SetTree.combined operator first second).span
      first.checkNesting depth false
      second.checkNesting depth false
  | _ => .ok ()

mutual

/-- Check how deeply a pattern is nested. -/
def Tree.checkNesting (depth : Nat) : Tree → Except Fault Unit
  | .bracketed span _ set => do set.checkNesting (← deeper depth span) false
  | .repeated span _ _ tree => do tree.checkNesting (← deeper depth span)
  | .group span _ _ tree => do tree.checkNesting (← deeper depth span)
  | .sequence span items => do Tree.checkAllNesting (← deeper depth span) items
  | .choice span branches => do Tree.checkAllNesting (← deeper depth span) branches
  | _ => .ok ()

/-- Check how deeply patterns are nested. -/
def Tree.checkAllNesting (depth : Nat) : List Tree → Except Fault Unit
  | [] => .ok ()
  | tree :: rest => do
      tree.checkNesting depth
      Tree.checkAllNesting depth rest

end

end TapeConsole.Pattern
