import TapeConsole.Pattern.Matcher
import TapeConsole.Pattern.Reader.Pattern
set_option autoImplicit false

/-!
# From a pattern to a matcher

`Matcher.ofTree` gives what a pattern matches.  Switches hold for what follows
them in their group, so they are handed on from part to part.  `Matcher.parse`
reads a pattern from its text and refuses those that cannot be carried out.
-/

namespace TapeConsole.Pattern

/-- The switches for a part of a pattern. -/
structure Switches where
  ignoreCase : Bool := false
  multiLine : Bool := false
  dotAll : Bool := false
  unicode : Bool := true
  carriageReturns : Bool := false
  deriving DecidableEq, Repr, Inhabited

/-- The switches after some of them have been turned on or off. -/
def Switches.set (s : Switches) (items : List FlagItem) : Switches where
  ignoreCase := (flagState .ignoreCase items).getD s.ignoreCase
  multiLine := (flagState .multiLine items).getD s.multiLine
  dotAll := (flagState .dotAll items).getD s.dotAll
  unicode := (flagState .unicode items).getD s.unicode
  carriageReturns := (flagState .carriageReturns items).getD s.carriageReturns

/-! ## Sets -/

/-- The set with one character. -/
def single (c : Char) : CharRanges := ⟨[(c.toNat, c.toNat)]⟩

/-- All characters. -/
def allChars : CharRanges := ⟨[(0, 0x10FFFF)]⟩

/-- The members of a set known by a letter, among ASCII characters. -/
def LetterSet.chars : LetterSet → CharRanges
  | .digit => NamedSet.digit.chars
  | .space => NamedSet.space.chars
  | .word => NamedSet.word.chars

/-- A set with the ASCII letters that differ from a member only in case. -/
def withCases (set : CharRanges) : CharRanges :=
  let letters := (List.range 0x80).map Char.ofNat
  let others := letters.filter fun c => set.has c.toLower || set.has c.toUpper
  set.union ⟨others.map fun c => (c.toNat, c.toNat)⟩

/-- The set of a pattern while it is put together. -/
structure SetDraft where
  chars : CharRanges := ⟨[]⟩
  /-- Case makes no difference to it. -/
  caseless : Bool := true
  deriving DecidableEq, Repr, Inhabited

namespace SetDraft

/-- A set with the other cases of its letters, if case is to make no difference.  Among all
characters these are known only if there are none. -/
def foldCase (s : Switches) (span : Span) (draft : SetDraft) : Except Fault SetDraft :=
  if !s.ignoreCase then .ok draft
  else if s.unicode then
    if draft.caseless then .ok draft else .error ⟨.caseUnknown, span⟩
  else .ok { draft with chars := withCases draft.chars }

/-- The complement of a set.  Among bytes it has parts of characters. -/
def negate (s : Switches) (span : Span) (draft : SetDraft) : Except Fault SetDraft :=
  if s.unicode then
    .ok ⟨draft.chars.complement, draft.caseless⟩
  else .error ⟨.partialChar, span⟩

/-- The union of two sets. -/
def union (a b : SetDraft) : SetDraft := ⟨a.chars.union b.chars, a.caseless && b.caseless⟩

/-- Two sets combined. -/
def combine (operator : SetOperator) (a b : SetDraft) : SetDraft :=
  let decide : Bool → Bool → Bool := match operator with
    | .intersection => fun x y => x && y
    | .difference => fun x y => x && !y
    | .symmetricDifference => fun x y => x != y
  ⟨CharRanges.combine decide a.chars b.chars, a.caseless && b.caseless⟩

end SetDraft

/-- The character of a literal; among bytes, a byte that is no character is refused. -/
def Literal.value (s : Switches) (l : Literal) : Except Fault Char :=
  if !s.unicode && l.isByte && 0x80 ≤ l.char.toNat then .error ⟨.partialChar, l.span⟩
  else .ok l.char

/-- The character of a literal in a set; among bytes it has to be an ASCII character. -/
def Literal.member (s : Switches) (l : Literal) : Except Fault Char := do
  let c ← l.value s
  if !s.unicode && 0x80 ≤ c.toNat then .error ⟨.bytesOnly, l.span⟩ else .ok c

/-- The set of a letter, which is known among bytes only. -/
def LetterSet.ofSwitches (s : Switches) (span : Span) (negated : Bool) (set : LetterSet) :
    Except Fault CharRanges :=
  if s.unicode then .error ⟨.letterUnknown, span⟩
  else if negated then .error ⟨.partialChar, span⟩
  else .ok set.chars

/-- The set of a property, which is never known. -/
def Property.refuse (s : Switches) (span : Span) (property : Property) : Fault :=
  ⟨if s.unicode then property.cause else .bytesOnly, span⟩

/-- The characters of a set. -/
def SetTree.draft (s : Switches) : SetTree → Except Fault SetDraft
  | .empty _ => .ok {}
  | .literal l => do return ⟨single (← l.member s), false⟩
  | .range start stop => do
      return ⟨⟨[((← start.member s).toNat, (← stop.member s).toNat)]⟩, false⟩
  | .named span set negated => do
      let draft ← SetDraft.foldCase s span ⟨set.chars, false⟩
      if negated then draft.negate s span else return draft
  | .letter span set negated => do return ⟨← set.ofSwitches s span negated, false⟩
  | .property span p _ => .error (p.refuse s span)
  | .bracketed span negated set => do
      let draft ← (← set.draft s).foldCase s span
      if negated then draft.negate s span else return draft
  | .union first second => do return (← first.draft s).union (← second.draft s)
  | .combined operator first second => do
      let a ← first.draft s
      let b ← second.draft s
      let b ← b.foldCase s second.span
      let a ← a.foldCase s first.span
      return .combine operator a b

/-! ## Patterns -/

/-- A matcher for a character. -/
def Literal.matcher (s : Switches) (l : Literal) : Except Fault Matcher := do
  let c ← l.value s
  if !s.ignoreCase then return .chars (single c)
  else if s.unicode then .error ⟨.caseUnknown, l.span⟩
  else if c.isAlpha then return .chars (withCases (single c))
  else return .chars (single c)

/-- A matcher for a condition on a place. -/
def Look.matcher (s : Switches) : Look → Matcher
  | .textStart => .edge .textStart
  | .textEnd => .edge .textEnd
  | .lineStart => .edge (if s.multiLine then .lineStart s.carriageReturns else .textStart)
  | .lineEnd => .edge (if s.multiLine then .lineEnd s.carriageReturns else .textEnd)
  | look => .edge (.words look s.unicode)

/-- A matcher for any character. -/
def dotMatcher (s : Switches) (span : Span) : Except Fault Matcher :=
  if !s.unicode then .error ⟨.partialChar, span⟩
  else if s.dotAll then .ok (.chars allChars)
  else if s.carriageReturns then .ok (.chars ((single '\n').union (single '\r')).complement)
  else .ok (.chars (single '\n').complement)

mutual

/-- What a pattern matches, and the switches after it. -/
def Matcher.ofTree (s : Switches) : Tree → Except Fault (Matcher × Switches)
  | .empty => .ok (.empty, s)
  | .flags items => .ok (.empty, s.set items)
  | .literal l => do return (← l.matcher s, s)
  | .dot span => do return (← dotMatcher s span, s)
  | .look _ look => .ok (look.matcher s, s)
  | .letter span set negated => do return (.chars (← set.ofSwitches s span negated), s)
  | .property span p _ => .error (p.refuse s span)
  | .bracketed span negated set => do
      let draft ← (SetTree.bracketed span negated set).draft s
      return (.chars draft.chars, s)
  | .repeated _ least most tree => do
      let (matcher, s) ← Matcher.ofTree s tree
      return (matcher.times least most, s)
  | .group _ isRemembered flags tree => do
      let (matcher, _) ← Matcher.ofTree (s.set flags) tree
      return (if isRemembered then .remembered matcher else matcher, s)
  | .sequence _ items => Matcher.ofSequence s items
  | .choice _ branches => Matcher.ofChoice s branches

/-- What patterns one after the other match. -/
def Matcher.ofSequence (s : Switches) : List Tree → Except Fault (Matcher × Switches)
  | [] => .ok (.empty, s)
  | [tree] => Matcher.ofTree s tree
  | tree :: rest => do
      let (first, s) ← Matcher.ofTree s tree
      let (second, s) ← Matcher.ofSequence s rest
      return (if first = .empty then second else .sequence first second, s)

/-- What one of several patterns matches. -/
def Matcher.ofChoice (s : Switches) : List Tree → Except Fault (Matcher × Switches)
  | [] => .ok (.empty, s)
  | [tree] => Matcher.ofTree s tree
  | tree :: rest => do
      let (first, s) ← Matcher.ofTree s tree
      let (second, s) ← Matcher.ofChoice s rest
      return (.choice first second, s)

end

/-- Why the text of a pattern is refused. -/
inductive Refusal where
  /-- It is not written as a pattern. -/
  | written (text : String) (fault : Fault)
  /-- What it matches takes too large a machine. -/
  | tooLarge
  /-- It has to know the words in all scripts. -/
  | needsWords
  deriving DecidableEq, Repr, Inhabited

/-- Why a pattern is refused, in words. -/
def Refusal.message : Refusal → String
  | .written text fault => fault.report text
  | .tooLarge =>
      "Compiled regex exceeds size limit of " ++ toString Matcher.sizeLimit ++ " bytes."
  | .needsWords => "error building NFA"

/-- Read a pattern. -/
def Matcher.parse (text : String) : Except Refusal Matcher :=
  match Tree.parse text >>= Matcher.ofTree {} with
  | .error fault => .error (.written text fault)
  | .ok (matcher, _) =>
      if Matcher.sizeLimit < matcher.size then .error .tooLarge
      else if matcher.needsWords then .error .needsWords
      else .ok matcher

end TapeConsole.Pattern
