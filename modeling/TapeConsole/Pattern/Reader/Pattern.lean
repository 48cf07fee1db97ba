import TapeConsole.Pattern.Reader.Repetition
import TapeConsole.Pattern.Reader.Set
set_option autoImplicit false

/-!
# Reading a pattern

`Tree.parse` reads a whole pattern with a stack of the groups and choices that
have been opened.
-/

namespace TapeConsole.Pattern

/-- Read one character that stands for itself, for any or for a place. -/
def readSingle : Read Tree := do
  let span ← charSpan
  match ← char? with
  | some '\\' => readEscape
  | some '.' => bump; return .dot span
  | some '^' => bump; return .look span .lineStart
  | some '$' => bump; return .look span .lineEnd
  | some c => bump; return .literal ⟨span, c, false⟩
  | none => return .empty

/-- Close the innermost group, whose last branch has these items. -/
def closeGroup (frames : List GroupFrame) (items : Items) : Read (List GroupFrame × Items) := do
  let stop ← position
  let last := items.tree stop
  let (frames, inner) : List GroupFrame × Tree := match frames with
    | .choice start branches :: rest => (rest, .choice ⟨start, stop⟩ (last :: branches).reverse)
    | _ => (frames, last)
  match frames with
  | .group before span remembered flags verbose :: rest =>
      bump
      modify fun r => { r with verbose }
      let span ← spanFrom span.start
      return (rest, { before with items := .group span remembered flags inner :: before.items })
  | _ => refuse .groupUnopened (← charSpan)

/-- The whole pattern, whose last branch has these items. -/
def closeAll (frames : List GroupFrame) (items : Items) : Read Tree := do
  let stop ← position
  let last := items.tree stop
  match frames with
  | [] => return last
  | [.choice start branches] => return .choice ⟨start, stop⟩ (last :: branches).reverse
  | .group _ span _ _ _ :: _ => refuse .groupUnclosed span
  | .choice _ _ :: .group _ span _ _ _ :: _ => refuse .groupUnclosed span
  | .choice _ _ :: _ => return last

/-- The branches so far with one more. -/
def addBranch (frames : List GroupFrame) (start : Position) (branch : Tree) : List GroupFrame :=
  match frames with
  | .choice start branches :: rest => .choice start (branch :: branches) :: rest
  | _ => .choice start [branch] :: frames

/-- Read the rest of a pattern. -/
def readTree : (bound : Nat) → (frames : List GroupFrame) → (items : Items) → Read Tree
  | 0, frames, items => closeAll frames items
  | bound + 1, frames, items => do
      skipSpace
      match ← char? with
      | none => closeAll frames items
      | some '(' =>
          match ← readOpening with
          | .switches flags =>
              modify fun r => { r with verbose := (flagState .verbose flags).getD r.verbose }
              readTree bound frames { items with items := .flags flags :: items.items }
          | .group span remembered flags =>
              let verbose := (← get).verbose
              modify fun r => { r with verbose := (flagState .verbose flags).getD verbose }
              readTree bound (.group items span remembered flags verbose :: frames) ⟨← position, []⟩
      | some ')' =>
          let (frames, items) ← closeGroup frames items
          readTree bound frames items
      | some '|' =>
          let branch := items.tree (← position)
          bump
          readTree bound (addBranch frames items.start branch) ⟨← position, []⟩
      | some '[' =>
          let set ← readSet (← get).rest.length [] (.empty (← position))
          readTree bound frames { items with items := set :: items.items }
      | some '?' => readTree bound frames (← readRepetition items 0 (some 1))
      | some '*' => readTree bound frames (← readRepetition items 0 none)
      | some '+' => readTree bound frames (← readRepetition items 1 none)
      | some '\x7b' => readTree bound frames (← readCounted items)
      | some _ =>
          let item ← readSingle
          readTree bound frames { items with items := item :: items.items }

/-- Read a pattern. -/
def Tree.parse (text : String) : Except Fault Tree := do
  let chars := text.toList
  let (tree, _) ← (readTree (chars.length + 1) [] ⟨{}, []⟩).run { rest := chars }
  tree.checkNesting 0
  return tree

end TapeConsole.Pattern
