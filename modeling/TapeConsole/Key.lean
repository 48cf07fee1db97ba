set_option autoImplicit false

/-!
# Keys

A key press is a key with the modifiers held down; `KeyAction.ofKey` says what
it asks for.
-/

namespace TapeConsole

/-- A key of the keyboard. -/
inductive KeyCode where
  /-- A key that types a character. -/
  | char (c : Char)
  | enter
  | tab
  | esc
  /-- Any other key, by its name. -/
  | other (name : String)
  deriving DecidableEq, Repr, Inhabited

/-- A key pressed while other keys are held down. -/
structure Key where
  code : KeyCode
  /-- Whether the control key is held down. -/
  control : Bool := false
  deriving DecidableEq, Repr, Inhabited

/-- What a key asks for. -/
inductive KeyAction where
  /-- Leave the program. -/
  | quit
  /-- Start the run again. -/
  | reset
  /-- Offer a value to the run. -/
  | input (value : Int64)
  /-- Nothing. -/
  | ignore
  deriving DecidableEq, Repr, Inhabited

/-- What a key asks for.  Only control changes the meaning of a key. -/
def KeyAction.ofKey (k : Key) : KeyAction :=
  match k.code with
  | .esc => .quit
  | .enter => .input 10
  | .tab => .input 9
  | .char c =>
      if k.control && c = 'c' then .quit
      else if k.control && c = 'r' then .reset
      else .input (Int64.ofNat c.toNat)
  | .other _ => .ignore

/-- Something that happens at the terminal. -/
inductive TerminalEvent where
  /-- A key is pressed. -/
  | press (key : Key)
  /-- Anything else, such as a key released or a movement of the mouse. -/
  | other
  deriving DecidableEq, Repr, Inhabited

end TapeConsole
