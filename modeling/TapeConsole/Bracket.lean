import TapeConsole.Program
set_option autoImplicit false

/-!
# Bracket partners

A loop bracket is joined to its partner by counting the depth of nesting from
the bracket on, itself included: the depth is zero again at the partner.
`Program.partner` looks for it in one direction and reports a `Fault` if the
program ends first.

Partners are remembered in a `JumpMemo`, from both ends, because a program does
not change while it runs.  `JumpMemo.resolve` asks the memo first and searches
only for what it does not know.
-/

namespace TapeConsole

/-- A bracket that had to jump and has no partner. -/
structure Fault where
  /-- The index of the bracket in the program. -/
  position : Nat
  /-- The bracket as it is written. -/
  bracket : Char
  deriving DecidableEq, Repr, Inhabited

/-- The text a fault is reported with. -/
def Fault.message (f : Fault) : String :=
  "Unbalanced brackets: no partner for '" ++ f.bracket.toString ++
    "' at instruction " ++ toString f.position

/-- The way a partner is looked for. -/
inductive Direction where
  | forward
  | backward
  deriving DecidableEq, Repr, Inhabited

/-- The bracket a search in this direction ends at. -/
def Direction.target : Direction → Instruction
  | .forward => .loopEnd
  | .backward => .loopStart

/-- How many instructions to walk, `walked` of them done, until the depth of
nesting is zero at a `target`. -/
def Direction.distance? (target : Instruction) :
    (depth : Int) → (walked : Nat) → List Instruction → Option Nat
  | _, _, [] => none
  | depth, walked, i :: rest =>
      if depth + i.nesting = 0 ∧ i = target then some walked
      else Direction.distance? target (depth + i.nesting) (walked + 1) rest

namespace Program

/-- The position of the partner of the bracket at `start`, or the fault at `start`. -/
def partner (p : Program) (start : Nat) (direction : Direction) : Except Fault Nat :=
  let found :=
    match direction with
    | .forward =>
        (Direction.distance? direction.target 0 0 (p.toList.drop start)).map (start + ·)
    | .backward =>
        if start < p.length then
          (Direction.distance? direction.target 0 0 (p.toList.take (start + 1)).reverse).map
            (start - ·)
        else none
  match found with
  | some position => .ok position
  | none => .error ⟨start, ((p.get? start).getD direction.target).toChar⟩

end Program

/-- The partners found so far, one entry for each position of a program. -/
structure JumpMemo where
  /-- The partner of each position, where it is known. -/
  partners : Array (Option Nat) := #[]
  deriving DecidableEq, Repr, Inhabited

namespace JumpMemo

/-- Nothing is known yet about a program of length `n`. -/
def blank (n : Nat) : JumpMemo := ⟨Array.replicate n none⟩

/-- The partner of a position, if it is known. -/
def get? (m : JumpMemo) (i : Nat) : Option Nat := m.partners[i]?.join

/-- Remember a pair from both ends. -/
def link (m : JumpMemo) (a b : Nat) : JumpMemo :=
  ⟨(m.partners.setIfInBounds a (some b)).setIfInBounds b (some a)⟩

/-- A partner, and what is known once it has been resolved. -/
structure Resolved where
  /-- The position of the partner. -/
  target : Nat
  /-- The partners known from now on. -/
  memo : JumpMemo
  /-- Whether the partner was known before. -/
  remembered : Bool
  deriving DecidableEq, Repr, Inhabited

/-- The partner of the bracket at `source`: the one that is known, or else the one found by
searching, which is remembered from then on. -/
def resolve (m : JumpMemo) (p : Program) (source : Nat) (direction : Direction) :
    Except Fault Resolved :=
  match m.get? source with
  | some target => .ok ⟨target, m, true⟩
  | none =>
      match p.partner source direction with
      | .ok target => .ok ⟨target, m.link source target, false⟩
      | .error fault => .error fault

end JumpMemo

end TapeConsole
