import TapeConsole.Pattern.Reader
import TapeConsole.Pattern.Tree
set_option autoImplicit false

/-!
# Reading numbers and escapes

`readNumber` reads a number of repetitions, and `readEscape` what begins with a
backslash.  Every loop takes at least one character, so the number of characters
left bounds it.
-/

namespace TapeConsole.Pattern

/-- Read decimal digits, each with the blanks after it. -/
def readDigits : (bound : Nat) → (digits : Nat) → (count : Nat) → Read (Nat × Nat)
  | 0, digits, count => return (digits, count)
  | bound + 1, digits, count => do
      match ← char? with
      | some c =>
          if c.isDigit then
            advance
            readDigits bound (10 * digits + (c.toNat - '0'.toNat)) (count + 1)
          else return (digits, count)
      | none => return (digits, count)

/-- Pass over blanks, whether or not they are passed over elsewhere. -/
def skipAnySpace : (bound : Nat) → Read Unit
  | 0 => return ()
  | bound + 1 => do
      match ← char? with
      | some c => if blankChars.has c then bump; skipAnySpace bound else return ()
      | none => return ()

/-- Read a number of repetitions. -/
def readNumber : Read (Except Fault Nat) := do
  let bound := (← get).rest.length
  skipAnySpace bound
  let start ← position
  let (number, count) ← readDigits bound 0 0
  let span ← spanFrom start
  skipAnySpace bound
  if count = 0 then return .error ⟨.countEmpty, span⟩
  else if 0x100000000 ≤ number then return .error ⟨.numberInvalid, span⟩
  else return .ok number

/-- The value of a hexadecimal digit. -/
def hexValue? (c : Char) : Option Nat :=
  if c.isDigit then some (c.toNat - '0'.toNat)
  else if 'a' ≤ c ∧ c ≤ 'f' then some (c.toNat - 'a'.toNat + 10)
  else if 'A' ≤ c ∧ c ≤ 'F' then some (c.toNat - 'A'.toNat + 10)
  else none

/-- The character with a number. -/
def charOfNumber? (n : Nat) : Option Char :=
  if n < 0xD800 ∨ (0xDFFF < n ∧ n < 0x110000) then some (Char.ofNat n) else none

/-- Read so many hexadecimal digits, each with the blanks after it. -/
def readHexDigits : (count : Nat) → (number : Nat) → Read Nat
  | 0, number => return number
  | count + 1, number => do
      match ← char? with
      | none => refuse .escapeIncomplete (← spanHere)
      | some c =>
          match hexValue? c with
          | none => refuse .hexDigit (← charSpan)
          | some d =>
              advance
              readHexDigits count (16 * number + d)

/-- Read hexadecimal digits up to a closing brace; the brace is left. -/
def readHexBraced : (bound : Nat) → (number count : Nat) → Read (Nat × Nat)
  | 0, number, count => return (number, count)
  | bound + 1, number, count => do
      match ← char? with
      | none => return (number, count)
      | some c =>
          if c = '\x7d' then return (number, count)
          else
            match hexValue? c with
            | none => refuse .hexDigit (← charSpan)
            | some d =>
                advance
                readHexBraced bound (16 * number + d) (count + 1)

/-- Read the number of a character after a letter that says how long it is. -/
def readHex (start : Position) (letter : Char) : Read Literal := do
  advance
  match ← char? with
  | none => refuse .escapeIncomplete (← spanHere)
  | some '\x7b' =>
      let brace ← position
      let inside := (← charSpan).stop
      advance
      let (number, count) ← readHexBraced (← get).rest.length 0 0
      if ← atEnd then refuse .escapeIncomplete (← spanFrom brace)
      let stop ← position
      advance
      if count = 0 then refuse .hexEmpty (← spanFrom brace)
      match charOfNumber? number with
      | none => refuse .hexInvalid ⟨inside, stop⟩
      | some char => return ⟨← spanFrom start, char, false⟩
  | some _ =>
      let digits ← position
      let count := if letter = 'x' then 2 else if letter = 'u' then 4 else 8
      let number ← readHexDigits count 0
      match charOfNumber? number with
      | none => refuse .hexInvalid (← spanFrom digits)
      | some char => return ⟨← spanFrom start, char, letter = 'x'⟩

/-- Read a name up to a closing brace; the brace is left. -/
def readBraced : (bound : Nat) → (name : List Char) → Read (List Char)
  | 0, name => return name.reverse
  | bound + 1, name => do
      match ← char? with
      | none => return name.reverse
      | some c =>
          if c = '\x7d' then return name.reverse
          else
            advance
            readBraced bound (c :: name)

/-- The part of a text before another text, and the part after it. -/
def splitAt? (separator : List Char) : (before : List Char) → List Char → Option (String × String)
  | _, [] => none
  | before, c :: rest =>
      if separator.isPrefixOf (c :: rest) then
        some (String.ofList before.reverse,
          String.ofList ((c :: rest).drop separator.length))
      else splitAt? separator (c :: before) rest

/-- The property written in braces, and whether its value is one not to have. -/
def propertyOf (text : List Char) : Property × Bool :=
  match splitAt? ['!', '='] [] text with
  | some (name, value) => (.valued name value, true)
  | none =>
      match splitAt? [':'] [] text with
      | some (name, value) => (.valued name value, false)
      | none =>
          match splitAt? ['='] [] text with
          | some (name, value) => (.valued name value, false)
          | none => (.named (String.ofList text), false)

/-- Read a property after its letter. -/
def readProperty (start : Position) (letter : Char) : Read Tree := do
  advance
  let negated := letter = 'P'
  match ← char? with
  | none => refuse .escapeIncomplete (← spanHere)
  | some '\x7b' =>
      advance
      let name ← readBraced (← get).rest.length []
      if ← atEnd then refuse .escapeIncomplete (← spanHere)
      bump
      let (property, differs) := propertyOf name
      return .property (← spanFrom start) property (negated != differs)
  | some c =>
      if c = '\\' then refuse .propertyInvalid (← charSpan)
      advance
      return .property (← spanFrom start) (.named c.toString) negated

/-- The characters with a meaning of their own in a pattern. -/
def metaChars : List Char := "\\.+*?()|[]\x7b\x7d^$#&-~".toList

/-- Whether a character can be written with a backslash before it. -/
def isEscapable (c : Char) : Bool :=
  metaChars.contains c || (c.toNat < 0x80 && !c.isAlphanum && c ≠ '<' && c ≠ '>')

/-- The control characters that have a letter. -/
def controlOf? (c : Char) : Option Char :=
  [('a', '\x07'), ('f', '\x0c'), ('t', '\t'), ('n', '\n'), ('r', '\r'), ('v', '\x0b')].lookup c

/-- The kinds of word boundaries that have a name. -/
def boundaryOf? (name : String) : Option Look :=
  [("start", Look.wordStart), ("end", .wordEnd), ("start-half", .wordStartHalf),
    ("end-half", .wordEndHalf)].lookup name

/-- Read the letters of the name of a word boundary. -/
def readBoundaryName : (bound : Nat) → (name : List Char) → Read (List Char)
  | 0, name => return name.reverse
  | bound + 1, name => do
      match ← char? with
      | none => return name.reverse
      | some c =>
          if c.isAlpha || c = '-' then
            advance
            readBoundaryName bound (c :: name)
          else return name.reverse

/-- Read the name of a word boundary in braces.  What does not begin like a name is left to
be read as a number of repetitions. -/
def readBoundary (start : Position) : Read (Option Look) := do
  let r ← get
  advance
  match ← char? with
  | none => refuse .boundaryIncomplete (← spanFrom start)
  | some c =>
      if c.isAlpha || c = '-' then
        let contents ← position
        let name ← readBoundaryName (← get).rest.length []
        if (← char?) ≠ some '\x7d' then refuse .boundaryUnclosed (← spanFrom r.position)
        let stop ← position
        bump
        match boundaryOf? (String.ofList name) with
        | none => refuse .boundaryUnknown ⟨contents, stop⟩
        | some look => return some look
      else
        set r
        return none

/-- Read what begins with a backslash. -/
def readEscape : Read Tree := do
  let start ← position
  bump
  match ← char? with
  | none => refuse .escapeIncomplete (← spanFrom start)
  | some c =>
      if c.isDigit then refuse .backreference ⟨start, (← charSpan).stop⟩
      if c = 'x' || c = 'u' || c = 'U' then return .literal (← readHex start c)
      if c = 'p' || c = 'P' then return ← readProperty start c
      bump
      let span ← spanFrom start
      if isEscapable c then return .literal ⟨span, c, false⟩
      match controlOf? c with
      | some control => return .literal ⟨span, control, false⟩
      | none =>
          match c with
          | 'd' => return .letter span .digit false
          | 'D' => return .letter span .digit true
          | 's' => return .letter span .space false
          | 'S' => return .letter span .space true
          | 'w' => return .letter span .word false
          | 'W' => return .letter span .word true
          | 'A' => return .look span .textStart
          | 'z' => return .look span .textEnd
          | 'B' => return .look span .noWordBoundary
          | '<' => return .look span .wordStart
          | '>' => return .look span .wordEnd
          | 'b' =>
              if (← char?) = some '\x7b' then
                match ← readBoundary start with
                | some look => return .look (← spanFrom start) look
                | none => return .look span .wordBoundary
              else return .look span .wordBoundary
          | _ => refuse .escapeUnknown span

end TapeConsole.Pattern
