import TapeConsole.Pattern.Reader
import TapeConsole.Pattern.Tree
import TapeConsole.Text.Letter
set_option autoImplicit false

/-!
# Reading groups

What stands between the parts of a pattern that are open: the items of a
sequence, the frames of groups and choices, and what a parenthesis opens.
-/

namespace TapeConsole.Pattern

/-- The items of a sequence so far, the last one first. -/
structure Items where
  start : Position
  items : List Tree := []
  deriving Repr, Inhabited

/-- The sequence of items that ends here. -/
def Items.tree (i : Items) (stop : Position) : Tree :=
  match i.items with
  | [] => .empty
  | [item] => item
  | items => .sequence ⟨i.start, stop⟩ items.reverse

/-- What has been opened: a group with the items before it, or a choice with the branches
before this one, the last one first. -/
inductive GroupFrame where
  | group (before : Items) (span : Span) (remembered : Bool) (flags : List FlagItem)
    (verbose : Bool)
  | choice (start : Position) (branches : List Tree)
  deriving Repr, Inhabited

/-- The switch for a letter. -/
def flagOf? (c : Char) : Option Flag :=
  [('i', Flag.ignoreCase), ('m', .multiLine), ('s', .dotAll), ('U', .swapGreed), ('u', .unicode),
    ('R', .carriageReturns), ('x', .verbose)].lookup c

/-- Read switches up to a colon or a closing parenthesis, which is left. -/
def readFlags : (bound : Nat) → (items : List (FlagItem × Span)) → Read (List FlagItem)
  | 0, items => return (items.map (·.1)).reverse
  | bound + 1, items => do
      let span ← charSpan
      match ← char? with
      | none => refuse .flagMissing span
      | some c =>
          if c = ':' || c = ')' then
            match items with
            | (.negation, span) :: _ => refuse .negationDangling span
            | _ => return (items.map (·.1)).reverse
          else
            let item ← match c, flagOf? c with
              | '-', _ => pure FlagItem.negation
              | _, some flag => pure (.flag flag)
              | _, none => refuse .flagUnknown span
            match items.lookup item with
            | some first =>
                if item = .negation then refuse (.negationRepeated first) span
                else refuse (.flagRepeated first) span
            | none =>
                bump
                if ← atEnd then refuse .flagMissing (← spanHere)
                readFlags bound ((item, span) :: items)

/-- Whether a character can stand in the name of a group. -/
def isNameChar (isFirst : Bool) (c : Char) : Bool :=
  c = '_' || letterChars.has c ||
    (!isFirst && (numberChars.has c || c = '.' || c = '[' || c = ']'))

/-- Read the characters of the name of a group. -/
def readNameChars : (bound : Nat) → (name : List Char) → Read (List Char)
  | 0, name => return name.reverse
  | bound + 1, name => do
      match ← char? with
      | none => return name.reverse
      | some c =>
          if c = '>' then return name.reverse
          else if isNameChar (name = []) c then
            bump
            readNameChars bound (c :: name)
          else refuse .nameInvalid (← charSpan)

/-- Read the name of a group with the bracket that closes it. -/
def readName : Read Unit := do
  let start ← position
  let name ← readNameChars (← get).rest.length []
  if ← atEnd then refuse .nameUnclosed (← spanHere)
  let span ← spanFrom start
  bump
  if name = [] then refuse .nameEmpty ⟨start, start⟩
  let name := String.ofList name
  match (← get).names.lookup name with
  | some first => refuse (.nameRepeated first) span
  | none => modify fun r => { r with names := (name, span) :: r.names }

/-- What a parenthesis opens: switches for what follows, or a group. -/
inductive Opening where
  | switches (items : List FlagItem)
  | group (span : Span) (remembered : Bool) (flags : List FlagItem)
  deriving DecidableEq, Repr, Inhabited

/-- Read an opening parenthesis with what belongs to it. -/
def readOpening : Read Opening := do
  let opened ← charSpan
  bump
  skipSpace
  if ← takeAny ["?=", "?!", "?<=", "?<!"] then refuse .lookAround (← spanFrom opened.start)
  let inside ← spanHere
  if ← takeAny ["?P<", "?<"] then
    readName
    return .group opened true []
  else if ← takeIf "?" then
    if ← atEnd then refuse .groupUnclosed opened
    let flags ← readFlags (← get).rest.length []
    let isGroup := (← char?) = some ':'
    bump
    if isGroup then return .group opened false flags
    if flags = [] then refuse .repetitionMissing inside
    return .switches flags
  else return .group opened true []

end TapeConsole.Pattern
