set_option autoImplicit false

/-!
# The command line

The words of a command line are read from left to right into a `Config`.  Words
are options with a value, flags, and at most one word for the program file.

A value in a word of its own is kept as pending.  It is settled, that is checked
and stored, when the next word has been recognised, so that an unknown word is
reported before a bad value in front of it.  A value attached to its option is
settled at once.  Whether the options go together is looked at after all words.
-/

namespace TapeConsole

/-- What a command line asks for. -/
structure Config where
  /-- The file with the program. -/
  programFile : Option String := none
  /-- The program itself. -/
  eval : Option String := none
  /-- The ticks per second of the tick thread. -/
  rate : Nat := 60
  /-- Whether to run without a screen. -/
  headless : Bool := false
  /-- The number of ticks after which a headless run is given up. -/
  maxTicks : Option Nat := none
  /-- The file the log is appended to. -/
  logFile : Option String := none
  deriving DecidableEq, Repr, Inhabited

/-- Where the log goes. -/
inductive LogTarget where
  | off
  | standardError
  | file (path : String)
  deriving DecidableEq, Repr, Inhabited

/-- The log goes to its file if there is one; without a screen it may go to the
standard error stream, which otherwise would spoil the screen. -/
def Config.logTarget (c : Config) : LogTarget :=
  match c.logFile with
  | some path => .file path
  | none => if c.headless then .standardError else .off

/-- Why a command line gives no configuration. -/
inductive ArgumentFault where
  /-- A word that is not known, or a second program file. -/
  | unknownArgument
  /-- A value that is missing, or an empty path. -/
  | invalidValue
  /-- A number that cannot be read or is out of range. -/
  | valueValidation
  /-- A value for a flag. -/
  | tooManyValues
  /-- An option given twice, or two that exclude each other. -/
  | argumentConflict
  /-- An option without the flag it needs. -/
  | missingRequired
  /-- Not a fault: help is asked for. -/
  | displayHelp
  /-- Not a fault: the version is asked for. -/
  | displayVersion
  deriving DecidableEq, Repr, Inhabited

/-- What is wrong with a command line. -/
def ArgumentFault.message : ArgumentFault → String
  | .unknownArgument => "unexpected argument found"
  | .invalidValue => "a value is required"
  | .valueValidation => "invalid number"
  | .tooManyValues => "unexpected value for a flag"
  | .argumentConflict => "the arguments cannot be used together"
  | .missingRequired => "--max-ticks requires --headless"
  | .displayHelp => "help requested"
  | .displayVersion => "version requested"

namespace Arguments

/-! ## Words -/

/-- Something that has a value. -/
inductive Slot where
  | programFile
  | eval
  | rate
  | maxTicks
  | logFile
  deriving DecidableEq, Repr, Inhabited

/-- Something that has none. -/
inductive Flag where
  | headless
  | help
  | version
  deriving DecidableEq, Repr, Inhabited

/-- What the name of an option stands for. -/
inductive Meaning where
  | slot (s : Slot)
  | flag (f : Flag)
  deriving DecidableEq, Repr, Inhabited

/-- The options with a name of several letters. -/
def ofLong? (name : String) : Option Meaning :=
  if name = "eval" then some (.slot .eval)
  else if name = "rate" then some (.slot .rate)
  else if name = "max-ticks" then some (.slot .maxTicks)
  else if name = "log-file" then some (.slot .logFile)
  else if name = "headless" then some (.flag .headless)
  else if name = "help" then some (.flag .help)
  else if name = "version" then some (.flag .version)
  else none

/-- The options with a name of one letter. -/
def ofShort? (letter : Char) : Option Meaning :=
  if letter = 'e' then some (.slot .eval)
  else if letter = 'r' then some (.slot .rate)
  else if letter = 'h' then some (.flag .help)
  else if letter = 'V' then some (.flag .version)
  else none

/-- A word by its form. -/
inductive Word where
  /-- Two dashes: only plain words follow. -/
  | escape
  /-- Two dashes, a name, and perhaps an equals sign and a value. -/
  | long (name : String) (value : Option String)
  /-- A dash, a letter, and what follows it. -/
  | short (letter : Char) (rest : List Char)
  /-- Any other word. -/
  | plain (text : String)
  deriving DecidableEq, Repr, Inhabited

/-- The form of a word. -/
def Word.ofString (w : String) : Word :=
  match w.toList with
  | ['-', '-'] => .escape
  | '-' :: '-' :: rest =>
      .long (String.ofList (rest.takeWhile (· ≠ '=')))
        (match rest.dropWhile (· ≠ '=') with
          | [] => none
          | _ :: value => some (String.ofList value))
  | '-' :: letter :: rest => .short letter rest
  | _ => .plain w

/-- The value attached to an option of one letter, after an equals sign or directly. -/
def attached (rest : List Char) : Option String :=
  match rest with
  | [] => none
  | '=' :: value => some (String.ofList value)
  | value => some (String.ofList value)

/-! ## Values -/

/-- The number written by decimal digits, at least one. -/
def digits? (cs : List Char) : Option Nat :=
  if cs ≠ [] ∧ cs.all Char.isDigit then
    some (cs.foldl (fun n c => 10 * n + (c.toNat - 48)) 0)
  else none

/-- The number written in decimal, perhaps after a plus sign. -/
def number? (text : String) : Option Nat :=
  match text.toList with
  | '+' :: rest => digits? rest
  | cs => digits? cs

/-- A number within bounds. -/
def numberIn (lo hi : Nat) (text : String) : Except ArgumentFault Nat :=
  match number? text with
  | some n => if lo ≤ n ∧ n ≤ hi then .ok n else .error .valueValidation
  | none => .error .valueValidation

/-- A path, which is not empty. -/
def path (text : String) : Except ArgumentFault String :=
  if text = "" then .error .invalidValue else .ok text

/-! ## What has been given -/

/-- The values and flags stored so far. -/
structure Given where
  programFile : Option String := none
  eval : Option String := none
  rate : Option Nat := none
  headless : Bool := false
  maxTicks : Option Nat := none
  logFile : Option String := none
  deriving DecidableEq, Repr, Inhabited

namespace Given

/-- Whether a value has been stored. -/
def has (g : Given) : Slot → Bool
  | .programFile => g.programFile.isSome
  | .eval => g.eval.isSome
  | .rate => g.rate.isSome
  | .maxTicks => g.maxTicks.isSome
  | .logFile => g.logFile.isSome

/-- Check a value and store it. -/
def set (g : Given) (slot : Slot) (text : String) : Except ArgumentFault Given :=
  match slot with
  | .programFile => (path text).map fun p => { g with programFile := some p }
  | .eval => .ok { g with eval := some text }
  | .rate => (numberIn 1 0xFFFFFFFF text).map fun n => { g with rate := some n }
  | .maxTicks => (numberIn 0 0xFFFFFFFFFFFFFFFF text).map fun n => { g with maxTicks := some n }
  | .logFile => (path text).map fun p => { g with logFile := some p }

/-- Store a value: it must be there, for the first time, and good, in this order. -/
def store (g : Given) (slot : Slot) (value : Option String) : Except ArgumentFault Given :=
  match value with
  | none => .error .invalidValue
  | some text => if g.has slot then .error .argumentConflict else g.set slot text

/-- Note a flag. -/
def raise (g : Given) : Flag → Except ArgumentFault Given
  | .headless =>
      if g.headless then .error .argumentConflict else .ok { g with headless := true }
  | .help => .error .displayHelp
  | .version => .error .displayVersion

/-- The configuration, if what has been given goes together. -/
def config (g : Given) : Except ArgumentFault Config :=
  if g.programFile.isSome ∧ g.eval.isSome then .error .argumentConflict
  else if g.maxTicks.isSome ∧ g.headless = false then .error .missingRequired
  else
    .ok
      { programFile := g.programFile
        eval := g.eval
        rate := g.rate.getD 60
        headless := g.headless
        maxTicks := g.maxTicks
        logFile := g.logFile }

end Given

/-! ## Reading the words -/

/-- Something whose value is not settled yet, or still to come. -/
structure Pending where
  slot : Slot
  value : Option String
  deriving DecidableEq, Repr, Inhabited

/-- A command line read so far. -/
structure Reading where
  given : Given := {}
  pending : Option Pending := none
  /-- Whether only plain words follow. -/
  escaped : Bool := false
  /-- Whether there has been a word for the program file. -/
  hasPositional : Bool := false
  deriving DecidableEq, Repr, Inhabited

namespace Reading

/-- Settle what is pending. -/
def settle (r : Reading) : Except ArgumentFault Reading :=
  match r.pending with
  | none => .ok r
  | some p => (r.given.store p.slot p.value).map fun g => { r with given := g, pending := none }

/-- An option with its value attached, or with none yet. -/
def option (r : Reading) (slot : Slot) (value : Option String) : Except ArgumentFault Reading := do
  let r ← r.settle
  match value with
  | some _ => return { r with given := ← r.given.store slot value }
  | none => return { r with pending := some ⟨slot, none⟩ }

/-- A flag. -/
def flag (r : Reading) (f : Flag) : Except ArgumentFault Reading := do
  let r ← r.settle
  return { r with given := ← r.given.raise f }

/-- A word for the program file; there is at most one. -/
def positional (r : Reading) (text : String) : Except ArgumentFault Reading :=
  if r.hasPositional then .error .unknownArgument
  else
    r.settle.map fun r =>
      { r with pending := some ⟨.programFile, some text⟩, hasPositional := true }

/-- A plain word: the value that is still to come, or the program file. -/
def plain (r : Reading) (text : String) : Except ArgumentFault Reading :=
  match r.pending with
  | some ⟨slot, none⟩ => .ok { r with pending := some ⟨slot, some text⟩ }
  | _ => r.positional text

/-- The next word. -/
def word (r : Reading) (w : String) : Except ArgumentFault Reading :=
  if r.escaped then r.positional w
  else
    match Word.ofString w with
    | .escape => .ok { r with escaped := true }
    | .long name value =>
        match ofLong? name with
        | none => .error .unknownArgument
        | some (.slot slot) => r.option slot value
        | some (.flag f) => if value.isSome then .error .tooManyValues else r.flag f
    | .short letter rest =>
        match ofShort? letter with
        | none => .error .unknownArgument
        | some (.slot slot) => r.option slot (attached rest)
        | some (.flag f) => r.flag f
    | .plain text => r.plain text

end Reading

/-- Read the words of a command line. -/
def parse (words : List String) : Except ArgumentFault Config := do
  let r ← words.foldlM Reading.word {}
  let r ← r.settle
  r.given.config

end Arguments

end TapeConsole
