import TapeConsole.Text.Mark
import TapeConsole.Text.Pictograph
set_option autoImplicit false

/-!
# Clusters

A reader takes some sequences of characters for one: a letter with its accents,
a syllable, a flag made of two letters, an emoji joined to another one.
`clusters` cuts a text into such sequences.
-/

namespace TapeConsole

/-- What a character does at the border to its neighbours. -/
inductive ClusterRole where
  | carriageReturn
  | lineFeed
  /-- Never joined to anything. -/
  | control
  /-- Part of the cluster before it. -/
  | extending
  /-- Part of the cluster before it, which a pictograph may continue. -/
  | joiner
  /-- Part of the cluster before it, drawn after it. -/
  | spacing
  /-- Part of the cluster after it. -/
  | prepended
  /-- A consonant that begins a syllable. -/
  | leading
  /-- The vowel of a syllable. -/
  | vowel
  /-- A consonant that ends a syllable. -/
  | trailing
  /-- A syllable that ends in a vowel. -/
  | openSyllable
  /-- A syllable that ends in a consonant. -/
  | closedSyllable
  /-- One half of a flag. -/
  | regional
  | pictograph
  | other
  deriving DecidableEq, Repr, Inhabited

/-- The control characters and other characters without a form. -/
def formlessChars : CharRanges :=
  ⟨[(0x0, 0x9), (0xB, 0xC), (0xE, 0x1F), (0x7F, 0x9F), (0xAD, 0xAD), (0x61C, 0x61C),
    (0x180E, 0x180E), (0x200B, 0x200B), (0x200E, 0x200F), (0x2028, 0x202E), (0x2060, 0x206F),
    (0xFEFF, 0xFEFF), (0xFFF0, 0xFFFB), (0x13430, 0x1343F), (0x1BCA0, 0x1BCA3),
    (0x1D173, 0x1D17A), (0xE0000, 0xE001F), (0xE0080, 0xE00FF), (0xE01F0, 0xE0FFF)]⟩

/-- The role of a character. -/
def ClusterRole.ofChar (c : Char) : ClusterRole :=
  let n := c.toNat
  let within (lo hi : Nat) : Bool := lo ≤ n && n ≤ hi
  if within 0x20 0x7E then .other
  else if n = 0xD then .carriageReturn
  else if n = 0xA then .lineFeed
  else if n = 0x200D then .joiner
  else if isRegionLetter c then .regional
  else if within 0x1100 0x115F || within 0xA960 0xA97C then .leading
  else if within 0x1160 0x11A7 || within 0xD7B0 0xD7C6 then .vowel
  else if n = 0x16D63 || within 0x16D67 0x16D6A then .vowel
  else if within 0x11A8 0x11FF || within 0xD7CB 0xD7FB then .trailing
  else if within 0xAC00 0xD7A3 then
    if (n - 0xAC00) % 28 = 0 then .openSyllable else .closedSyllable
  else if formlessChars.has c then .control
  else if extendingChars.has c then .extending
  else if spacingChars.has c then .spacing
  else if prependedChars.has c then .prepended
  else if pictographChars.has c then .pictograph
  else .other

/-- What the next character has to know about a cluster that has begun. -/
structure ClusterState where
  /-- The role of the last character. -/
  role : ClusterRole
  /-- The cluster ends in one half of a flag. -/
  halfFlag : Bool
  /-- The cluster ends in a pictograph with the marks on it. -/
  pictograph : Bool
  /-- The cluster ends in such a pictograph and a joiner. -/
  joined : Bool
  /-- The cluster ends in a consonant with the marks on it. -/
  consonant : Bool
  /-- One of these marks ties the consonant to the next one. -/
  linked : Bool
  deriving DecidableEq, Repr, Inhabited

namespace ClusterState

/-- The state before the first character. -/
def empty : ClusterState := ⟨.control, false, false, false, false, false⟩

/-- The state after one more character. -/
def next (s : ClusterState) (c : Char) : ClusterState :=
  let role := ClusterRole.ofChar c
  let isMark := (role = .extending && c.toNat ≠ 0x200C) || role = .joiner
  { role
    halfFlag := role = .regional && !s.halfFlag
    pictograph := role = .pictograph || (s.pictograph && role = .extending)
    joined := s.pictograph && role = .joiner
    consonant := conjunctChars.has c || (s.consonant && isMark)
    linked := s.consonant && isMark && (s.linked || linkingChars.has c) }

/-- Whether a character belongs to the cluster. -/
def joins (s : ClusterState) (c : Char) : Bool :=
  match s.role, ClusterRole.ofChar c with
  | .carriageReturn, .lineFeed => true
  | .carriageReturn, _ | .lineFeed, _ | .control, _ => false
  | _, .carriageReturn | _, .lineFeed | _, .control => false
  | _, .extending | _, .joiner | _, .spacing => true
  | .prepended, _ => true
  | .leading, .leading | .leading, .vowel => true
  | .leading, .openSyllable | .leading, .closedSyllable => true
  | .openSyllable, .vowel | .openSyllable, .trailing => true
  | .vowel, .vowel | .vowel, .trailing => true
  | .closedSyllable, .trailing | .trailing, .trailing => true
  | .regional, .regional => s.halfFlag
  | .joiner, .pictograph => s.joined
  | _, _ => s.linked && conjunctChars.has c

end ClusterState

/-- Cut the characters after a cluster that has begun; its characters come last first. -/
def splitClustersFrom (s : ClusterState) (begun : List Char) : List Char → List (List Char)
  | [] => if begun = [] then [] else [begun.reverse]
  | c :: rest =>
      if begun = [] ∨ s.joins c then splitClustersFrom (s.next c) (c :: begun) rest
      else begun.reverse :: splitClustersFrom (ClusterState.empty.next c) [c] rest

/-- Cut characters into clusters. -/
def splitClusters (cs : List Char) : List (List Char) := splitClustersFrom .empty [] cs

/-- The clusters of a text. -/
def clusters (text : String) : List String := (splitClusters text.toList).map String.ofList

end TapeConsole
