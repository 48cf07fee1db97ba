import TapeConsole.Bracket
import TapeConsole.Number.Fixed
import TapeConsole.Pattern.Compile
import TapeConsole.Text.Blank
set_option autoImplicit false

/-!
# Log records

Everything the program reports about its own work is a `Record`.  A record has
a level, the name of the part that reports and a message; `Record.line` is the
line a log shows.  A `LogFilter` says which records are shown: its directives
give a most detailed level, each for the parts whose names begin in some way, and
it may have a pattern that messages have to match.  Its text is read leniently: a
directive or pattern that makes no sense is passed over with a warning.
-/

namespace TapeConsole

/-- How important a record is. -/
inductive Level where
  | error
  | warn
  | info
  | debug
  | trace
  deriving DecidableEq, Repr, Inhabited

namespace Level

/-- How detailed a level is, the most important one first. -/
def detail : Level → Nat
  | .error => 1
  | .warn => 2
  | .info => 3
  | .debug => 4
  | .trace => 5

/-- The name of a level in a log line. -/
def name : Level → String
  | .error => "ERROR"
  | .warn => "WARN"
  | .info => "INFO"
  | .debug => "DEBUG"
  | .trace => "TRACE"

end Level

/-- Something the program reports about its own work. -/
inductive Record where
  /-- The instruction at `position` is carried out as number `count`. -/
  | dispatch (count position : Nat) (instruction : Instruction)
  /-- A bracket jumps to its partner, which was remembered or has been searched for. -/
  | jump (source target : Nat) (remembered : Bool)
  /-- A value was stored in the cell that waited for it. -/
  | delivered (value : Int64)
  /-- The engine starts again. -/
  | reset
  /-- The program has ended. -/
  | halted (count : Nat) (speed : Float)
  /-- A bracket that must jump has no partner. -/
  | fault (fault : Fault)
  /-- The output writer did not take a character. -/
  | refused (reason : String)
  /-- The tick thread ends because of a fault. -/
  | tickerStopped (fault : Fault)
  /-- A program has been loaded for the screen. -/
  | loaded (length : Nat)
  /-- A headless run has come to its end. -/
  | finished (count ticks : Nat)
  deriving DecidableEq, Repr, Inhabited

namespace Record

/-- How important a record is. -/
def level : Record → Level
  | .dispatch .. => .trace
  | .jump .. => .debug
  | .delivered _ => .debug
  | .reset => .debug
  | .halted .. => .info
  | .fault _ => .warn
  | .refused _ => .warn
  | .tickerStopped _ => .error
  | .loaded _ => .info
  | .finished .. => .info

/-- The part of the program a record comes from. -/
def target : Record → String
  | .dispatch .. => "tapetty::interpreter::engine"
  | .jump .. => "tapetty::interpreter::jumps"
  | .delivered _ => "tapetty::interpreter::engine"
  | .reset => "tapetty::interpreter::engine"
  | .halted .. => "tapetty::interpreter::engine"
  | .fault _ => "tapetty::interpreter::engine"
  | .refused _ => "tapetty::snapshot"
  | .tickerStopped _ => "tapetty::driver"
  | .loaded _ => "tapetty"
  | .finished .. => "tapetty"

/-- What a record says. -/
def message : Record → String
  | .dispatch count position instruction =>
      "dispatch #" ++ toString count ++ " at " ++ toString position ++ ": " ++
        instruction.toChar.toString
  | .jump source target remembered =>
      "jump " ++ toString source ++ " -> " ++ toString target ++
        (if remembered then " (cached)" else "")
  | .delivered value => "input " ++ toString value.toInt ++ " delivered"
  | .reset => "engine reset"
  | .halted count speed =>
      "halted after " ++ toString count ++ " instructions (speed x" ++ fixedText 3 speed ++ ")"
  | .fault f => f.message
  | .refused reason => "output sink write failed: " ++ reason
  | .tickerStopped f => "tick source stopped: " ++ f.message
  | .loaded length => "Loaded " ++ toString length ++ " instructions"
  | .finished count ticks =>
      toString count ++ " instructions in " ++ toString ticks ++ " ticks"

/-- The line a log shows for a record. -/
def line (r : Record) : String := r.level.name ++ " " ++ r.target ++ ": " ++ r.message

end Record

/-! ## Choosing what is shown -/

/-- How much detail is shown of some parts. -/
structure Directive where
  /-- How the names of the parts begin; without it, all parts are meant. -/
  name : Option String
  /-- The detail that is shown. -/
  detail : Nat
  deriving DecidableEq, Repr, Inhabited

namespace Directive

/-- How long the name is. -/
def length (d : Directive) : Nat := (d.name.map String.length).getD 0

/-- Whether a part is meant. -/
def appliesTo (d : Directive) (target : String) : Bool :=
  match d.name with
  | none => true
  | some name => name.toList.isPrefixOf target.toList

end Directive

/-- Which records a log shows. -/
structure LogFilter where
  directives : List Directive
  /-- The pattern that a message has to match. -/
  pattern : Option Pattern.Matcher := none
  deriving DecidableEq, Repr, Inhabited

/-- Something in the text of a filter that is passed over. -/
inductive FilterFault where
  /-- A level has no such name. -/
  | level (name : String)
  /-- A directive has more than one equals sign. -/
  | directive (text : String)
  /-- The whole text has more than one slash. -/
  | slashes (text : String)
  /-- The text after the slash is not taken as a pattern. -/
  | pattern (refusal : Pattern.Refusal)
  deriving DecidableEq, Repr, Inhabited

namespace FilterFault

/-- The warning a fault is reported with, which can have several lines. -/
def warning (f : FilterFault) : String :=
  let invalid (text : String) : String := "invalid logging spec '" ++ text ++ "'"
  let what := match f with
    | .level name => invalid name
    | .directive text => invalid text
    | .slashes text => invalid text ++ " (too many '/'s)"
    | .pattern refusal => "invalid regex filter - " ++ refusal.message
  "warning: " ++ what ++ ", ignoring it"

end FilterFault

namespace LogFilter

/-- The detail a level name stands for, `off` showing nothing. -/
def detail? (name : String) : Option Nat :=
  let name := name.toLower
  if name = "off" then some 0
  else if name = "error" then some Level.error.detail
  else if name = "warn" then some Level.warn.detail
  else if name = "info" then some Level.info.detail
  else if name = "debug" then some Level.debug.detail
  else if name = "trace" then some Level.trace.detail
  else none

/-- Read one directive: a level for all parts, the name of a part to be shown
in full, or a name and a level. -/
def directive (text : String) : Except FilterFault Directive :=
  match text.splitOn "=" with
  | [single] =>
      match detail? single with
      | some detail => .ok ⟨none, detail⟩
      | none => .ok ⟨some single, Level.trace.detail⟩
  | [name, level] =>
      let level := trimBlank level
      if level = "" then .ok ⟨some name, Level.trace.detail⟩
      else
        match detail? level with
        | some detail => .ok ⟨some name, detail⟩
        | none => .error (.level level)
  | _ => .error (.directive text)

/-- Read directives separated by commas, of which those with a fault are passed over. -/
def readDirectives (text : String) : List Directive × List FilterFault :=
  let words := ((text.splitOn ",").map trimBlank).filter (· ≠ "")
  (words.filterMap fun word => (directive word).toOption,
    words.filterMap fun word =>
      match directive word with
      | .ok _ => none
      | .error fault => some fault)

/-- Add a directive.  It takes the place of one with the same name. -/
def insert (d : Directive) : List Directive → List Directive
  | [] => [d]
  | first :: rest => if first.name = d.name then d :: rest else first :: insert d rest

/-- The filter with these directives; with none of them, errors are shown. -/
def ofDirectives (directives : List Directive) (pattern : Option Pattern.Matcher) : LogFilter :=
  if directives = [] then ⟨[⟨none, Level.error.detail⟩], pattern⟩
  else ⟨directives.foldl (fun all d => insert d all) [], pattern⟩

/-- Read a filter with what is passed over in its text: directives, and after a slash the
pattern that messages have to match. -/
def read (text : String) : LogFilter × List FilterFault :=
  match text.splitOn "/" with
  | [all] => let (found, faults) := readDirectives all; (ofDirectives found none, faults)
  | [all, pattern] =>
      let (found, faults) := readDirectives all
      match Pattern.Matcher.parse pattern with
      | .ok matcher => (ofDirectives found (some matcher), faults)
      | .error refusal => (ofDirectives found none, faults ++ [.pattern refusal])
  | _ => (ofDirectives [] none, [.slashes text])

/-- Read a filter. -/
def parse (text : String) : LogFilter := (read text).1

/-- The warnings about the text of a filter. -/
def warnings (text : String) : List String := (read text).2.map FilterFault.warning

/-- The detail shown for a part: that of the longest matching name, the last of
several equally long ones. -/
def detailFor (f : LogFilter) (target : String) : Nat :=
  let step (best : Option Directive) (d : Directive) : Option Directive :=
    if d.appliesTo target && best.all (·.length ≤ d.length) then some d else best
  ((f.directives.foldl step none).map Directive.detail).getD 0

/-- Whether a message is matched. -/
def matchesText (f : LogFilter) (message : String) : Bool :=
  f.pattern.all (·.isFoundIn message)

/-- Whether a record is shown. -/
def shows (f : LogFilter) (r : Record) : Bool :=
  r.level.detail ≤ f.detailFor r.target && f.matchesText r.message

/-- The lines shown for a sequence of records. -/
def lines (f : LogFilter) (records : List Record) : List String :=
  (records.filter f.shows).map Record.line

end LogFilter

end TapeConsole
