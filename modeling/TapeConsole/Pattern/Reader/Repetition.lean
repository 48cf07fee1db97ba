import TapeConsole.Pattern.Reader.Escape
import TapeConsole.Pattern.Reader.Group
set_option autoImplicit false

/-!
# Reading repetitions

A sign of repetition takes the item before it.
-/

namespace TapeConsole.Pattern

/-- Take the item that is to be repeated. -/
def takeItem (items : Items) : Read (Tree × Items) := do
  match items.items with
  | [] => refuse .repetitionMissing (← spanHere)
  | .empty :: _ => refuse .repetitionMissing (← spanHere)
  | .flags _ :: _ => refuse .repetitionMissing (← spanHere)
  | item :: rest => return (item, { items with items := rest })

/-- Add a repetition of an item. -/
def repeatItem (items : Items) (item : Tree) (least : Nat) (most : Option Nat) : Read Items := do
  let span ← spanFrom (item.start?.getD items.start)
  return { items with items := .repeated span least most item :: items.items }

/-- Read a sign of repetition, which a question mark may follow. -/
def readRepetition (items : Items) (least : Nat) (most : Option Nat) : Read Items := do
  let (item, items) ← takeItem items
  bump
  let _ ← takeIf "?"
  repeatItem items item least most

/-- The numbers of repetitions between braces. -/
def readCounts (start : Position) : Read (Nat × Option Nat) := do
  let least ← readNumber
  if ← atEnd then refuse .countUnclosed (← spanFrom start)
  if (← char?) = some ',' then
    advance
    if ← atEnd then refuse .countUnclosed (← spanFrom start)
    if (← char?) = some '\x7d' then return (← liftM least, none)
    let least ← liftM least
    let most ← readNumber
    return (least, some (← liftM most))
  else
    let least ← liftM least
    return (least, some least)

/-- Read numbers of repetitions in braces, which a question mark may follow. -/
def readCounted (items : Items) : Read Items := do
  let start ← position
  let (item, items) ← takeItem items
  advance
  if ← atEnd then refuse .countUnclosed (← spanFrom start)
  let (least, most) ← readCounts start
  if (← char?) ≠ some '\x7d' then refuse .countUnclosed (← spanFrom start)
  advance
  let _ ← takeIf "?"
  if most.any (· < least) then refuse .countOrder (← spanFrom start)
  repeatItem items item least most

end TapeConsole.Pattern
