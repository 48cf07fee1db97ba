import TapeConsole.Text.CharRanges
import TapeConsole.Pattern.Tree
set_option autoImplicit false

/-!
# Matching

A `Matcher` is a pattern without the ways in which it can be written.  It moves
a set of places in a text forward: `Matcher.step` gives the places at which what
it matches can end, for the places at which it can start.  A set of places is a
number whose bit `i` stands for the place before character `i`.
-/

namespace TapeConsole.Pattern

/-- A condition on the characters before and after a place. -/
inductive Edge where
  | textStart
  | textEnd
  /-- The start of a line, with carriage returns as line ends or not. -/
  | lineStart (carriageReturns : Bool)
  | lineEnd (carriageReturns : Bool)
  /-- A condition on whether characters before and after belong to words, which among all
  characters of the world cannot be told. -/
  | words (look : Look) (unicode : Bool)
  deriving DecidableEq, Repr, Inhabited

/-- What a pattern matches. -/
inductive Matcher where
  /-- The empty text. -/
  | empty
  /-- One character of a set. -/
  | chars (set : CharRanges)
  /-- The empty text at some places. -/
  | edge (edge : Edge)
  | sequence (first second : Matcher)
  | choice (first second : Matcher)
  /-- At least and, if there is a limit, at most so many times. -/
  | repeated (least : Nat) (most : Option Nat) (matcher : Matcher)
  /-- A part whose place is to be remembered. -/
  | remembered (matcher : Matcher)
  deriving DecidableEq, Repr, Inhabited

/-! ## Places in a text -/

/-- Whether a character belongs to words. -/
def isWordChar (c : Option Char) : Bool := c.any NamedSet.word.chars.has

namespace Edge

/-- Whether a place is the start of a line. -/
def startsLine (carriageReturns : Bool) (before after : Option Char) : Bool :=
  before = none || before = some '\n' ||
    (carriageReturns && before = some '\r' && after ≠ some '\n')

/-- Whether a place is the end of a line. -/
def endsLine (carriageReturns : Bool) (before after : Option Char) : Bool :=
  if carriageReturns then
    after = none || after = some '\r' || (after = some '\n' && before ≠ some '\r')
  else after = none || after = some '\n'

/-- Whether a condition holds between two characters, or an end of the text. -/
def holds (edge : Edge) (before after : Option Char) : Bool :=
  match edge with
  | .textStart => before = none
  | .textEnd => after = none
  | .lineStart carriageReturns => startsLine carriageReturns before after
  | .lineEnd carriageReturns => endsLine carriageReturns before after
  | .words look _ =>
      match look with
      | .wordBoundary => isWordChar before != isWordChar after
      | .noWordBoundary => isWordChar before == isWordChar after
      | .wordStart => !isWordChar before && isWordChar after
      | .wordEnd => isWordChar before && !isWordChar after
      | .wordStartHalf => !isWordChar before
      | .wordEndHalf => !isWordChar after
      | _ => false

/-- The places of a text, after a character, at which a condition holds. -/
def places (edge : Edge) (before : Option Char) : List Char → Nat
  | [] => (edge.holds before none).toNat
  | c :: rest => (edge.holds before (some c)).toNat + 2 * edge.places (some c) rest

end Edge

/-- The places of a text before characters of a set. -/
def placesBefore (set : CharRanges) : List Char → Nat
  | [] => 0
  | c :: rest => (set.has c).toNat + 2 * placesBefore set rest

/-- Take a step so many times, or until it makes no difference. -/
def stepTimes (step : Nat → Nat) : Nat → Nat → Nat
  | 0, places => places
  | count + 1, places =>
      let next := step places
      if next = places then places else stepTimes step count next

namespace Matcher

/-- The places at which a match can end, for the places at which it can start.  A match that
goes on for more rounds than the text has places has an empty round, so more rounds make no
difference. -/
def step (text : List Char) : Matcher → Nat → Nat
  | .empty, places => places
  | .chars set, places => (places &&& placesBefore set text) <<< 1
  | .edge condition, places => places &&& condition.places none text
  | .sequence first second, places => second.step text (first.step text places)
  | .choice first second, places => first.step text places ||| second.step text places
  | .repeated least most matcher, places =>
      let bound := text.length + 1
      let started := stepTimes (matcher.step text) (min least bound) places
      let further := match most with
        | none => bound
        | some most => min (most - least) bound
      stepTimes (fun places => places ||| matcher.step text places) further started
  | .remembered matcher, places => matcher.step text places

/-- Whether some part of a text is matched. -/
def isFoundIn (matcher : Matcher) (text : String) : Bool :=
  let chars := text.toList
  matcher.step chars (1 <<< (chars.length + 1) - 1) ≠ 0

/-! ## Size -/

/-- The size of one state of a machine that carries out a matcher. -/
def stateSize : Nat := 32

/-- The size of a machine for one character of a set. -/
def charsSize (set : CharRanges) : Nat :=
  match set.ranges with
  | [] => stateSize
  | [(lo, hi)] =>
      if hi < 0x80 then if lo = hi then stateSize else 2 * stateSize
      else if lo = hi then stateSize * (Char.ofNat lo).utf8Size
      else 28 * stateSize
  | ranges =>
      if ranges.all (·.2 < 0x80) then 2 * stateSize + 8 * ranges.length
      else 28 * stateSize + 36 * (ranges.filter (·.1 < 0x80)).length

/-- The size of a machine that carries out a matcher. -/
def size : Matcher → Nat
  | .empty => stateSize
  | .chars set => charsSize set
  | .edge _ => stateSize
  | .sequence first second => first.size + second.size
  | .choice first second => 2 * stateSize + 8 + first.size + second.size
  | .repeated least most matcher =>
      let once := matcher.size
      match most with
      | none => max 1 least * once + stateSize + 8
      | some most =>
          let choices := if least = most then 0 else (most - least) * (stateSize + 8) + stateSize
          most * once + choices
  | .remembered matcher => 2 * stateSize + matcher.size

/-- The largest size that is carried out. -/
def sizeLimit : Nat := 10485760

/-- Whether only the empty text can be matched. -/
def isEmptyOnly : Matcher → Bool
  | .empty => true
  | .chars _ => false
  | .edge _ => true
  | .sequence first second => first.isEmptyOnly && second.isEmptyOnly
  | .choice first second => first.isEmptyOnly && second.isEmptyOnly
  | .repeated _ most matcher => most = some 0 || matcher.isEmptyOnly
  | .remembered matcher => matcher.isEmptyOnly

/-- A matcher for repetitions, where the empty text need not be matched twice. -/
def times (matcher : Matcher) (least : Nat) (most : Option Nat) : Matcher :=
  let (least, most) :=
    if matcher.isEmptyOnly then (min least 1, some (min (most.getD 1) 1)) else (least, most)
  if most = some 0 then .empty
  else if least = 1 ∧ most = some 1 then matcher
  else .repeated least most matcher

/-- Whether a matcher has to know the words in all scripts. -/
def needsWords : Matcher → Bool
  | .empty => false
  | .chars _ => false
  | .edge (.words _ unicode) => unicode
  | .edge _ => false
  | .sequence first second => first.needsWords || second.needsWords
  | .choice first second => first.needsWords || second.needsWords
  | .repeated _ _ matcher => matcher.needsWords
  | .remembered matcher => matcher.needsWords

end Matcher

end TapeConsole.Pattern
