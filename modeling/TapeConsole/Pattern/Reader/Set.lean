import TapeConsole.Pattern.Reader.Escape
set_option autoImplicit false

/-!
# Reading sets

`readSet` reads a set in brackets with a stack of what has been opened in it:
brackets, and operators that wait for their second set.
-/

namespace TapeConsole.Pattern

/-- What has been opened in a set: a bracket with the union before it, or an operator with
the set before it. -/
inductive SetFrame where
  | bracket (before : SetTree) (span : Span) (negated : Bool)
  | operator (operator : SetOperator) (first : SetTree)
  deriving DecidableEq, Repr, Inhabited

/-- The fault of a set that has no end. -/
def refuseUnclosed {α : Type} : List SetFrame → Read α
  | [] => do refuse .setUnclosed (← spanHere)
  | .bracket _ span _ :: _ => refuse .setUnclosed span
  | .operator _ _ :: rest => refuseUnclosed rest

/-- Read the dashes at the start of a set. -/
def readDashes (start : Position) : (bound : Nat) → (union : SetTree) → Read SetTree
  | 0, union => return union
  | bound + 1, union => do
      if (← char?) = some '-' then
        let dash : SetTree := .literal ⟨← charSpan, '-', false⟩
        advance
        if ← atEnd then refuse .setUnclosed ⟨start, start⟩
        readDashes start bound (union.push dash)
      else return union

/-- Read the start of a set: the bracket, a sign of negation, and dashes or a closing bracket
that stand for themselves. -/
def readSetStart : Read (Span × Bool × SetTree) := do
  let start ← position
  advance
  if ← atEnd then refuse .setUnclosed (← spanFrom start)
  let negated := (← char?) = some '^'
  if negated then
    advance
    if ← atEnd then refuse .setUnclosed (← spanFrom start)
  let empty : SetTree := .empty (← position)
  let union ← readDashes start (← get).rest.length empty
  if union = empty && (← char?) = some ']' then
    let bracket : SetTree := .literal ⟨← charSpan, ']', false⟩
    advance
    if ← atEnd then refuse .setUnclosed (← spanFrom start)
    return (← spanFrom start, negated, bracket)
  return (← spanFrom start, negated, union)

/-- Read the name of a set in brackets and colons; if there is none, nothing is read. -/
def readNamedSet : Read (Option SetTree) := do
  let r ← get
  if ← takeIf "[:" then
    let negated ← takeIf "^"
    let rest := (← get).rest
    let name := rest.takeWhile (· ≠ ':')
    modify (Nat.repeat Reader.drop name.length)
    if ← takeIf ":]" then
      match NamedSet.ofName? (String.ofList name) with
      | some named => return some (.named (← spanFrom r.position) named negated)
      | none => set r; return none
    else set r; return none
  else return none

/-- Read one item of a set, which may be the start of a range. -/
def readSetItem : Read Tree := do
  match ← char? with
  | some '\\' => readEscape
  | some c =>
      let span ← charSpan
      bump
      return .literal ⟨span, c, false⟩
  | none => return .empty

/-- Where an item of a set was written. -/
def itemSpan : Tree → Read Span
  | .literal l => return l.span
  | .look span _ => return span
  | .letter span _ _ => return span
  | .property span _ _ => return span
  | _ => spanHere

/-- An item of a set by itself. -/
def setItemOf : Tree → Read SetTree
  | .literal l => return .literal l
  | .letter span s negated => return .letter span s negated
  | .property span p negated => return .property span p negated
  | item => do refuse .setEscape (← itemSpan item)

/-- The end of a range. -/
def rangeBoundOf : Tree → Read Literal
  | .literal l => return l
  | item => do refuse .rangeBound (← itemSpan item)

/-- Read an item of a set or a range of characters. -/
def readSetRange (frames : List SetFrame) : Read SetTree := do
  let first ← readSetItem
  skipSpace
  if ← atEnd then refuseUnclosed frames
  let r ← get
  let second := r.second?
  if r.rest.head? ≠ some '-' || second = some ']' || second = some '-' then setItemOf first
  else
    advance
    if ← atEnd then refuseUnclosed frames
    let last ← readSetItem
    let start ← rangeBoundOf first
    let stop ← rangeBoundOf last
    if stop.char < start.char then refuse .rangeOrder ⟨start.span.start, stop.span.stop⟩
    return .range start stop

/-- The set so far, with the operator before it applied. -/
def closeOperator (frames : List SetFrame) (set : SetTree) : List SetFrame × SetTree :=
  match frames with
  | .operator operator first :: rest => (rest, .combined operator first set)
  | _ => (frames, set)

/-- The operators on sets. -/
def readSetOperator : Read (Option SetOperator) := do
  if ← takeIf "&&" then return some .intersection
  else if ← takeIf "--" then return some .difference
  else if ← takeIf "~~" then return some .symmetricDifference
  else return none

/-- Read a set up to the bracket that closes it. -/
def readSet : (bound : Nat) → (frames : List SetFrame) → (union : SetTree) → Read Tree
  | 0, frames, _ => refuseUnclosed frames
  | bound + 1, frames, union => do
      skipSpace
      match ← char? with
      | none => refuseUnclosed frames
      | some '[' =>
          let named ← if frames = [] then pure none else readNamedSet
          match named with
          | some item => readSet bound frames (union.push item)
          | none =>
              let (span, negated, inner) ← readSetStart
              readSet bound (.bracket union span negated :: frames) inner
      | some ']' =>
          let (frames, set) := closeOperator frames union
          match frames with
          | .bracket before span negated :: rest =>
              bump
              let span ← spanFrom span.start
              if rest = [] then return .bracketed span negated set
              else readSet bound rest (before.push (.bracketed span negated set))
          | _ => refuseUnclosed frames
      | some _ =>
          match ← readSetOperator with
          | some operator =>
              let (frames, set) := closeOperator frames union
              readSet bound (.operator operator set :: frames) (.empty (← position))
          | none => readSet bound frames (union.push (← readSetRange frames))

end TapeConsole.Pattern
