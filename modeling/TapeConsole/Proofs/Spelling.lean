import TapeConsole.Arguments
set_option autoImplicit false

/-!
# How a configuration is written

A configuration can be written as a command line in many ways: the arguments in any
order, and an option with its value after an equals sign, in a word of its own, or
directly after the letter of the option.  `Arguments.Group` has the ways to write one
argument, `Arguments.Line` puts groups together, and `Config.WrittenAs` says that a
line has the arguments of a configuration, each once.  None of this mentions how a
command line is read.

The second half is about single words: which form a written word has, and that
decimal digits are read as the number they write.
-/

namespace TapeConsole

/-- The configuration makes sense: at most one source of the program, a limit of ticks only for a
run without a screen, numbers within their range, and no empty path. -/
structure Config.Valid (c : Config) : Prop where
  one_program : c.programFile = none ∨ c.eval = none
  headless_of_maxTicks : c.maxTicks ≠ none → c.headless = true
  rate_pos : 1 ≤ c.rate
  rate_lt : c.rate < 0x100000000
  maxTicks_lt : ∀ n, c.maxTicks = some n → n < 0x10000000000000000
  programFile_ne : c.programFile ≠ some ""
  logFile_ne : c.logFile ≠ some ""

namespace Arguments

/-! ## How arguments are written -/

/-- One thing that a command line says. -/
inductive Argument where
  | programFile (path : String)
  | eval (text : String)
  | rate (n : Nat)
  | headless
  | maxTicks (n : Nat)
  | logFile (path : String)
  deriving DecidableEq, Repr, Inhabited

/-- The characters write the number in decimal digits. -/
inductive Decimal : List Char → Nat → Prop where
  | digit {d : Nat} (h : d < 10) : Decimal [d.digitChar] d
  | snoc {cs : List Char} {n d : Nat} (hcs : Decimal cs n) (h : d < 10) :
      Decimal (cs ++ [d.digitChar]) (10 * n + d)

/-- The text is what the slot has to be given for this argument. -/
inductive Argument.Value : Argument → Slot → String → Prop where
  | programFile (path : String) : Value (.programFile path) .programFile path
  | eval (text : String) : Value (.eval text) .eval text
  | rate {text : String} {n : Nat} (h : Decimal text.toList n) : Value (.rate n) .rate text
  | maxTicks {text : String} {n : Nat} (h : Decimal text.toList n) :
      Value (.maxTicks n) .maxTicks text
  | logFile (path : String) : Value (.logFile path) .logFile path

/-- The name of an option of several letters. -/
def Slot.name? : Slot → Option String
  | .programFile => none
  | .eval => some "eval"
  | .rate => some "rate"
  | .maxTicks => some "max-ticks"
  | .logFile => some "log-file"

/-- The name of an option of one letter. -/
def Slot.letter? : Slot → Option Char
  | .eval => some 'e'
  | .rate => some 'r'
  | _ => none

/-- The text can be a word of its own: it is a dash, or does not begin with one. -/
def Free (text : String) : Prop := text = "-" ∨ text.toList.head? ≠ some '-'

instance (text : String) : Decidable (Free text) := inferInstanceAs (Decidable (_ ∨ _))

/-- The words that write one argument. -/
inductive Group : Argument → List String → Prop where
  | headless : Group .headless ["--headless"]
  /-- `--name=value` -/
  | assigned {a : Argument} {slot : Slot} {name text : String} (hname : slot.name? = some name)
      (hvalue : a.Value slot text) : Group a ["--" ++ name ++ "=" ++ text]
  /-- `--name value` -/
  | separate {a : Argument} {slot : Slot} {name text : String} (hname : slot.name? = some name)
      (hvalue : a.Value slot text) (hfree : Free text) : Group a ["--" ++ name, text]
  /-- `-n value` -/
  | letterSeparate {a : Argument} {slot : Slot} {letter : Char} {text : String}
      (hletter : slot.letter? = some letter) (hvalue : a.Value slot text) (hfree : Free text) :
      Group a [String.ofList ['-', letter], text]
  /-- `-nvalue` -/
  | letterAttached {a : Argument} {slot : Slot} {letter : Char} {text : String}
      (hletter : slot.letter? = some letter) (hvalue : a.Value slot text) (hne : text ≠ "")
      (hsign : text.toList.head? ≠ some '=') : Group a [String.ofList ('-' :: letter :: text.toList)]
  /-- The program file, as it is. -/
  | plain {path : String} (hfree : Free path) : Group (.programFile path) [path]

/-- The words that write several arguments: their groups in order, and the program file perhaps at
the end after two dashes. -/
inductive Line : List Argument → List String → Prop where
  | nil : Line [] []
  | group {a : Argument} {rest : List Argument} {words more : List String} (hgroup : Group a words)
      (hline : Line rest more) : Line (a :: rest) (words ++ more)
  | escaped (path : String) : Line [.programFile path] ["--", path]

end Arguments

open Arguments

namespace Config

/-- The arguments that a configuration has, with the rate or without it. -/
def arguments (c : Config) (withRate : Bool) : List Argument :=
  c.eval.toList.map .eval ++ (if withRate then [.rate c.rate] else []) ++
    (if c.headless then [.headless] else []) ++ c.maxTicks.toList.map .maxTicks ++
    c.logFile.toList.map .logFile ++ c.programFile.toList.map .programFile

/-- The words write the configuration: its arguments in any order, each once.  A rate of sixty need
not be written. -/
def WrittenAs (c : Config) (words : List String) : Prop :=
  ∃ (withRate : Bool) (arguments : List Argument), (withRate = true ∨ c.rate = 60) ∧
    arguments.Perm (c.arguments withRate) ∧ Line arguments words

end Config

namespace Arguments

/-! ## Words and numbers -/

theorem Decimal.toString (n : Nat) : Decimal (toString n).toList n := by
  have hdigits : (ToString.toString n).toList = Nat.toDigits 10 n := Nat.toList_repr
  rw [hdigits]
  induction n using Nat.strongRecOn with
  | ind n ih =>
      by_cases hlt : n < 10
      · rw [Nat.toDigits_of_lt_base hlt]
        exact .digit hlt
      · have hsnoc : Decimal (Nat.toDigits 10 (n / 10) ++ [(n % 10).digitChar])
            (10 * (n / 10) + n % 10) :=
          .snoc (ih (n / 10) (by omega) Nat.toList_repr) (Nat.mod_lt n (by decide))
        rw [Nat.div_add_mod] at hsnoc
        rw [Nat.toDigits_of_base_le (by decide) (Nat.not_lt.mp hlt)]
        exact hsnoc

theorem isDigit_digitChar {d : Nat} (h : d < 10) : d.digitChar.isDigit = true := by
  rw [Nat.isDigit_digitChar, decide_eq_true h]

/-- Decimal digits are read as the number they write. -/
theorem digits?_of_decimal {cs : List Char} {n : Nat} (h : Decimal cs n) : digits? cs = some n := by
  induction h with
  | @digit d h =>
      unfold digits?
      simp [isDigit_digitChar h, Nat.toNat_digitChar_of_lt_ten h]
  | @snoc cs n d hcs h ih =>
      unfold digits? at ih ⊢
      split at ih
      case isTrue hall =>
        rw [if_pos]
        · rw [List.foldl_append, Option.some.inj ih, List.foldl_cons, List.foldl_nil,
            Nat.toNat_digitChar_of_lt_ten h, Nat.add_sub_cancel_left]
        · exact ⟨by simp, by simp [hall.2, isDigit_digitChar h]⟩
      case isFalse => cases ih

theorem Decimal.head_isDigit {cs : List Char} {n : Nat} (h : Decimal cs n) :
    ∃ c rest, cs = c :: rest ∧ c.isDigit = true := by
  induction h with
  | digit h => exact ⟨_, [], rfl, isDigit_digitChar h⟩
  | snoc _ _ ih =>
      obtain ⟨c, rest, rfl, hc⟩ := ih
      exact ⟨c, _, rfl, hc⟩

/-- There is no sign in front of decimal digits. -/
theorem number?_of_decimal {text : String} {n : Nat} (h : Decimal text.toList n) :
    number? text = some n := by
  obtain ⟨c, rest, hcs, hc⟩ := h.head_isDigit
  have hsign : c ≠ '+' := by
    rintro rfl
    cases hc
  have hdigits := digits?_of_decimal h
  unfold number?
  rw [hcs] at hdigits ⊢
  split
  case h_1 heq => exact absurd (List.cons.inj heq).1 hsign
  case h_2 => exact hdigits

namespace Word

theorem ofString_long {w : String} {rest : List Char} (hw : w.toList = '-' :: '-' :: rest)
    (hne : rest ≠ []) :
    Word.ofString w = .long (String.ofList (rest.takeWhile (· ≠ '=')))
      (match rest.dropWhile (· ≠ '=') with
        | [] => none
        | _ :: value => some (String.ofList value)) := by
  unfold Word.ofString
  rw [hw]
  cases rest with
  | nil => exact absurd rfl hne
  | cons c rest => rfl

theorem ofString_short {w : String} {letter : Char} {rest : List Char}
    (hw : w.toList = '-' :: letter :: rest) (hletter : letter ≠ '-') :
    Word.ofString w = .short letter rest := by
  unfold Word.ofString
  rw [hw]
  split
  case h_1 heq => exact absurd (List.cons.inj (List.cons.inj heq).2).1 hletter
  case h_2 heq => exact absurd (List.cons.inj (List.cons.inj heq).2).1 hletter
  case h_3 heq =>
    obtain ⟨rfl, rfl⟩ := List.cons.inj (List.cons.inj heq).2
    rfl
  case h_4 hother => exact absurd rfl (hother letter rest)

theorem ofString_free {text : String} (h : Free text) : Word.ofString text = .plain text := by
  rcases h with rfl | hhead
  · rfl
  · unfold Word.ofString
    split
    case h_1 heq => rw [heq] at hhead; exact absurd rfl hhead
    case h_2 heq => rw [heq] at hhead; exact absurd rfl hhead
    case h_3 heq => rw [heq] at hhead; exact absurd rfl hhead
    case h_4 => rfl

end Word

/-- The table of names is the one that words are looked up in. -/
theorem ofLong?_of_name? {slot : Slot} {name : String} (h : slot.name? = some name) :
    ofLong? name = some (.slot slot) ∧ slot ≠ .programFile ∧ name.toList ≠ [] ∧
      ∀ c ∈ name.toList, c ≠ '=' := by
  cases slot with
  | programFile => cases h
  | _ =>
      obtain rfl := Option.some.inj h
      exact ⟨by decide, by decide, by decide, by simp⟩

theorem ofShort?_of_letter? {slot : Slot} {letter : Char} (h : slot.letter? = some letter) :
    ofShort? letter = some (.slot slot) ∧ slot ≠ .programFile ∧ letter ≠ '-' := by
  cases slot with
  | eval =>
      obtain rfl := Option.some.inj h
      exact ⟨by decide, by decide, by decide⟩
  | rate =>
      obtain rfl := Option.some.inj h
      exact ⟨by decide, by decide, by decide⟩
  | _ => cases h

end Arguments

end TapeConsole
