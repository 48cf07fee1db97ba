import Mathlib.Data.List.Nodup
import TapeConsole.Proofs.Spelling
set_option autoImplicit false

/-!
# Command lines give exactly the valid configurations

The reading of words keeps a value back until the next word is recognised.  The
proofs look at a reading as it would be with nothing kept back: `Reading.At` says
that settling gives these values.  A group takes a reading from `At g` to
`At (g.put a)` (`Reading.At.group`), a line does so for all its arguments
(`Reading.At.line`), and the order does not matter in the end
(`Given.foldl_put_of_perm`).  So every way of writing a valid configuration gives
that configuration.

In the other direction, everything that is stored has been checked
(`Given.Checked`), so a command line gives nothing but valid configurations.
-/

namespace TapeConsole

open Arguments

namespace Arguments

/-! ## What an argument adds -/

namespace Argument

/-- What an argument is about. -/
def meaning : Argument → Meaning
  | .programFile _ => .slot .programFile
  | .eval _ => .slot .eval
  | .rate _ => .slot .rate
  | .headless => .flag .headless
  | .maxTicks _ => .slot .maxTicks
  | .logFile _ => .slot .logFile

/-- The value is one that is stored. -/
def Good : Argument → Prop
  | .programFile path => path ≠ ""
  | .eval _ => True
  | .rate n => 1 ≤ n ∧ n < 0x100000000
  | .headless => True
  | .maxTicks n => n < 0x10000000000000000
  | .logFile path => path ≠ ""

theorem Value.meaning_eq {a : Argument} {slot : Slot} {text : String} (h : a.Value slot text) :
    a.meaning = .slot slot := by
  cases h <;> rfl

end Argument

namespace Given

/-- Whether something has been given. -/
def holds (g : Given) : Meaning → Bool
  | .slot slot => g.has slot
  | .flag .headless => g.headless
  | .flag _ => false

/-- The same with one argument more. -/
def put (g : Given) : Argument → Given
  | .programFile path => { g with programFile := some path }
  | .eval text => { g with eval := some text }
  | .rate n => { g with rate := some n }
  | .headless => { g with headless := true }
  | .maxTicks n => { g with maxTicks := some n }
  | .logFile path => { g with logFile := some path }

theorem holds_put_of_ne {g : Given} {a : Argument} {m : Meaning} (h : a.meaning ≠ m) :
    (g.put a).holds m = g.holds m := by
  rcases m with slot | f
  · cases slot <;> cases a <;> simp_all [put, holds, has, Argument.meaning]
  · cases f <;> cases a <;> simp_all [put, holds, Argument.meaning]

/-- Arguments about different things can be given in either order. -/
theorem put_comm {a b : Argument} (h : a.meaning ≠ b.meaning) (g : Given) :
    (g.put a).put b = (g.put b).put a := by
  cases a <;> cases b <;> simp_all [put, Argument.meaning]

/-- An option is not the program file. -/
theorem programFile_put {a : Argument} {slot : Slot} {text : String} (hvalue : a.Value slot text)
    (hslot : slot ≠ .programFile) (g : Given) : (g.put a).programFile = g.programFile := by
  cases hvalue with
  | programFile => exact absurd rfl hslot
  | _ => rfl

/-- A good value is stored if there is none yet. -/
theorem store_eq {g : Given} {a : Argument} {slot : Slot} {text : String}
    (hvalue : a.Value slot text) (hgood : a.Good) (hnew : g.holds a.meaning = false) :
    g.store slot (some text) = .ok (g.put a) := by
  have hhas : g.has slot = false := by
    rw [hvalue.meaning_eq] at hnew
    exact hnew
  unfold store
  rw [hhas]
  cases hvalue with
  | programFile =>
      have hpath : text ≠ "" := hgood
      simp [set, path, hpath, put, Except.map]
  | eval text => rfl
  | @rate _ n hdecimal =>
      have hrange : 1 ≤ n ∧ n ≤ 0xFFFFFFFF := ⟨hgood.1, Nat.le_of_lt_succ hgood.2⟩
      simp [set, numberIn, number?_of_decimal hdecimal, hrange, put, Except.map]
  | @maxTicks _ n hdecimal =>
      have hrange : n ≤ 0xFFFFFFFFFFFFFFFF := Nat.le_of_lt_succ hgood
      simp [set, numberIn, number?_of_decimal hdecimal, hrange, put, Except.map]
  | logFile =>
      have hpath : text ≠ "" := hgood
      simp [set, path, hpath, put, Except.map]

end Given

/-! ## Reading one group -/

namespace Reading

/-- With nothing kept back, the reading has these values.  No value is still to come, and the words
after two dashes have not been reached. -/
structure At (r : Reading) (g : Given) : Prop where
  escaped_eq : r.escaped = false
  positional_eq : r.hasPositional = g.programFile.isSome
  pending_ne : ∀ slot, r.pending ≠ some ⟨slot, none⟩
  settle_eq : r.settle = .ok { given := g, hasPositional := g.programFile.isSome }

theorem At.settled (g : Given) : At { given := g, hasPositional := g.programFile.isSome } g where
  escaped_eq := rfl
  positional_eq := rfl
  pending_ne := by
    intro slot h
    cases h
  settle_eq := rfl

theorem At.start : At {} {} := .settled {}

/-- A reading that keeps back a good value is as good as one that has stored it. -/
theorem At.pending {g : Given} {a : Argument} {slot : Slot} {text : String}
    (hvalue : a.Value slot text) (hgood : a.Good) (hnew : g.holds a.meaning = false) :
    At { given := g, pending := some ⟨slot, some text⟩,
         hasPositional := (g.put a).programFile.isSome } (g.put a) where
  escaped_eq := rfl
  positional_eq := rfl
  pending_ne := by
    intro slot h
    cases h
  settle_eq := by
    unfold settle
    simp only [Given.store_eq hvalue hgood hnew]
    rfl

variable {r : Reading} {g : Given} {a : Argument}

/-- A word with its value attached is stored at once. -/
theorem At.attached (h : r.At g) {w : String} {slot : Slot} {text : String}
    (hword : r.word w = r.option slot (some text)) (hslot : slot ≠ .programFile)
    (hvalue : a.Value slot text) (hgood : a.Good) (hnew : g.holds a.meaning = false) :
    ∃ r', [w].foldlM word r = .ok r' ∧ r'.At (g.put a) := by
  refine ⟨{ given := g.put a, hasPositional := g.programFile.isSome }, ?_, ?_⟩
  · rw [List.foldlM_cons, hword]
    unfold option
    rw [h.settle_eq]
    simp only [bind, Except.bind, Given.store_eq hvalue hgood hnew]
    rfl
  · rw [← Given.programFile_put hvalue hslot g]
    exact .settled _

/-- A word without its value waits for it, and the next word is the value. -/
theorem At.separate (h : r.At g) {w : String} {slot : Slot} {text : String}
    (hword : r.word w = r.option slot none) (hslot : slot ≠ .programFile)
    (hvalue : a.Value slot text) (hgood : a.Good) (hnew : g.holds a.meaning = false)
    (hfree : Free text) : ∃ r', [w, text].foldlM word r = .ok r' ∧ r'.At (g.put a) := by
  refine ⟨{ given := g, pending := some ⟨slot, some text⟩, hasPositional := g.programFile.isSome },
    ?_, ?_⟩
  · have hwaits : r.word w = .ok
        { given := g, pending := some ⟨slot, none⟩, hasPositional := g.programFile.isSome } := by
      rw [hword]
      unfold option
      rw [h.settle_eq]
      rfl
    have hplain : Word.ofString text = .plain text := Word.ofString_free hfree
    rw [List.foldlM_cons, hwaits]
    simp only [bind, Except.bind, List.foldlM_cons, List.foldlM_nil, word, hplain]
    rfl
  · rw [← Given.programFile_put hvalue hslot g]
    exact .pending hvalue hgood hnew

/-- The program file is kept back until the next word. -/
theorem At.positional (h : r.At g) {path : String} (hgood : (Argument.programFile path).Good)
    (hnew : g.holds (Argument.programFile path).meaning = false) :
    ∃ r', r.positional path = .ok r' ∧ r'.At (g.put (.programFile path)) := by
  have hnone : g.programFile.isSome = false := hnew
  refine ⟨{ given := g, pending := some ⟨.programFile, some path⟩, hasPositional := true }, ?_,
    .pending (.programFile path) hgood hnew⟩
  unfold Reading.positional
  rw [h.positional_eq, hnone, h.settle_eq]
  rfl

/-! The forms of a word for an option. -/

theorem word_assigned (h : r.escaped = false) {slot : Slot} {name : String}
    (hname : slot.name? = some name) (text : String) :
    r.word ("--" ++ name ++ "=" ++ text) = r.option slot (some text) := by
  obtain ⟨hlong, -, -, hsign⟩ := ofLong?_of_name? hname
  have hchars : ("--" ++ name ++ "=" ++ text).toList =
      '-' :: '-' :: (name.toList ++ '=' :: text.toList) := by simp
  have htake : (name.toList ++ '=' :: text.toList).takeWhile (· ≠ '=') = name.toList := by
    rw [List.takeWhile_append_of_pos (by simpa using hsign)]
    simp
  have hdrop : (name.toList ++ '=' :: text.toList).dropWhile (· ≠ '=') = '=' :: text.toList := by
    rw [List.dropWhile_append_of_pos (by simpa using hsign)]
    simp
  unfold word
  rw [h, Word.ofString_long hchars (by simp), htake, hdrop]
  simp [hlong]

theorem word_name (h : r.escaped = false) {slot : Slot} {name : String}
    (hname : slot.name? = some name) : r.word ("--" ++ name) = r.option slot none := by
  obtain ⟨hlong, -, hne, hsign⟩ := ofLong?_of_name? hname
  have hchars : ("--" ++ name).toList = '-' :: '-' :: name.toList := by simp
  have hall : ∀ c ∈ name.toList, decide (c ≠ '=') = true := by simpa using hsign
  have htake : name.toList.takeWhile (· ≠ '=') = name.toList := by
    rw [← List.append_nil name.toList, List.takeWhile_append_of_pos hall, List.takeWhile_nil]
  have hdrop : name.toList.dropWhile (· ≠ '=') = [] := by
    rw [← List.append_nil name.toList, List.dropWhile_append_of_pos hall, List.dropWhile_nil]
  unfold word
  rw [h, Word.ofString_long hchars hne, htake, hdrop]
  simp [hlong]

theorem word_letter (h : r.escaped = false) {slot : Slot} {letter : Char}
    (hletter : slot.letter? = some letter) (rest : List Char) :
    r.word (String.ofList ('-' :: letter :: rest)) = r.option slot (attached rest) := by
  obtain ⟨hshort, -, hdash⟩ := ofShort?_of_letter? hletter
  unfold word
  rw [h, Word.ofString_short (String.toList_ofList) hdash]
  simp [hshort]

/-- A value directly after the letter is not taken for one after an equals sign. -/
theorem attached_toList {text : String} (hne : text ≠ "") (hsign : text.toList.head? ≠ some '=') :
    attached text.toList = some text := by
  unfold attached
  split
  case h_1 heq => exact absurd (String.toList_eq_nil_iff.mp heq) hne
  case h_2 heq => rw [heq] at hsign; exact absurd rfl hsign
  case h_3 => rw [String.ofList_toList]

/-- A group adds its argument. -/
theorem At.group (h : r.At g) {words : List String} (hgroup : Group a words) (hgood : a.Good)
    (hnew : g.holds a.meaning = false) :
    ∃ r', words.foldlM word r = .ok r' ∧ r'.At (g.put a) := by
  cases hgroup with
  | headless =>
      have hflag : g.headless = false := hnew
      refine ⟨{ given := g.put .headless, hasPositional := g.programFile.isSome }, ?_, .settled _⟩
      have hword : r.word "--headless" = r.flag .headless := by
        unfold word
        rw [h.escaped_eq]
        rfl
      rw [List.foldlM_cons, hword]
      unfold flag
      rw [h.settle_eq]
      simp only [bind, Except.bind, Given.raise, hflag]
      rfl
  | assigned hname hvalue =>
      exact h.attached (word_assigned h.escaped_eq hname _) (ofLong?_of_name? hname).2.1 hvalue
        hgood hnew
  | separate hname hvalue hfree =>
      exact h.separate (word_name h.escaped_eq hname) (ofLong?_of_name? hname).2.1 hvalue hgood
        hnew hfree
  | letterSeparate hletter hvalue hfree =>
      exact h.separate (word_letter h.escaped_eq hletter []) (ofShort?_of_letter? hletter).2.1
        hvalue hgood hnew hfree
  | letterAttached hletter hvalue hne hsign =>
      refine h.attached ?_ (ofShort?_of_letter? hletter).2.1 hvalue hgood hnew
      rw [word_letter h.escaped_eq hletter, attached_toList hne hsign]
  | @plain path hfree =>
      obtain ⟨r', hpositional, hat⟩ := h.positional hgood hnew
      refine ⟨r', ?_, hat⟩
      have hplain : r.plain path = r.positional path := by
        unfold Reading.plain
        split
        case h_1 slot hpending => exact absurd hpending (h.pending_ne slot)
        case h_2 => rfl
      have hword : r.word path = r.positional path := by
        unfold word
        rw [h.escaped_eq, Word.ofString_free hfree]
        exact hplain
      rw [List.foldlM_cons, hword, hpositional]
      rfl

/-! ## Reading a line -/

/-- After two dashes a reading settles as before. -/
theorem settle_escaped (r : Reading) :
    ({ r with escaped := true } : Reading).settle =
      r.settle.map fun r => { r with escaped := true } := by
  rcases r with ⟨given, _ | p, escaped, hasPositional⟩
  · rfl
  · unfold settle
    cases hstore : given.store p.slot p.value <;> simp [hstore, Except.map]

/-- The program file after two dashes. -/
theorem At.escaped (h : r.At g) {path : String} (hgood : (Argument.programFile path).Good)
    (hnew : g.holds (Argument.programFile path).meaning = false) :
    ∃ r' r'', ["--", path].foldlM word r = .ok r' ∧ r'.settle = .ok r'' ∧
      r''.given = g.put (.programFile path) := by
  have hnone : g.programFile.isSome = false := hnew
  have hdashes : r.word "--" = .ok { r with escaped := true } := by
    unfold word
    rw [h.escaped_eq]
    rfl
  have hpositional : ({ r with escaped := true } : Reading).word path = .ok
      { given := g, pending := some ⟨.programFile, some path⟩, escaped := true,
        hasPositional := true } := by
    unfold word Reading.positional
    rw [settle_escaped, h.settle_eq, h.positional_eq, hnone]
    rfl
  refine ⟨{ given := g, pending := some ⟨.programFile, some path⟩, escaped := true,
            hasPositional := true },
    { given := g.put (.programFile path), escaped := true, hasPositional := true }, ?_, ?_, rfl⟩
  · rw [List.foldlM_cons, hdashes]
    change [path].foldlM word { r with escaped := true } = _
    rw [List.foldlM_cons, hpositional]
    rfl
  · unfold settle
    simp only [Given.store_eq (.programFile path) hgood hnew]
    rfl

/-- A line adds its arguments, if they are good and about different things.  The induction is on
the groups. -/
theorem At.line {arguments : List Argument} {words : List String} (hline : Line arguments words) :
    ∀ {r : Reading} {g : Given}, r.At g → (∀ a ∈ arguments, a.Good) →
      (arguments.map Argument.meaning).Nodup → (∀ a ∈ arguments, g.holds a.meaning = false) →
      ∃ r' r'', words.foldlM word r = .ok r' ∧ r'.settle = .ok r'' ∧
        r''.given = arguments.foldl Given.put g := by
  induction hline with
  | nil =>
      intro r g h _ _ _
      exact ⟨r, _, rfl, h.settle_eq, rfl⟩
  | @group a rest words more hgroup _ ih =>
      intro r g h hgood hnodup hnew
      rw [List.map_cons, List.nodup_cons] at hnodup
      obtain ⟨r₁, hwords, hat⟩ := h.group hgroup (hgood a List.mem_cons_self) (hnew a List.mem_cons_self)
      have hrest : ∀ b ∈ rest, (g.put a).holds b.meaning = false := by
        intro b hb
        have hne : a.meaning ≠ b.meaning := by
          intro heq
          exact hnodup.1 (heq ▸ List.mem_map_of_mem hb)
        rw [Given.holds_put_of_ne hne]
        exact hnew b (List.mem_cons_of_mem a hb)
      obtain ⟨r', r'', hmore, hsettle, hgiven⟩ :=
        ih hat (fun b hb => hgood b (List.mem_cons_of_mem a hb)) hnodup.2 hrest
      refine ⟨r', r'', ?_, hsettle, hgiven⟩
      rw [List.foldlM_append, hwords]
      exact hmore
  | escaped path =>
      intro r g h hgood _ hnew
      exact h.escaped (hgood _ List.mem_cons_self) (hnew _ List.mem_cons_self)

end Reading

/-! ## The order of arguments -/

/-- Arguments about different things add up to the same in any order. -/
theorem Given.foldl_put_of_perm {first second : List Argument} (hperm : first.Perm second)
    (hnodup : (first.map Argument.meaning).Nodup) (g : Given) :
    first.foldl put g = second.foldl put g := by
  refine hperm.foldl_eq' ?_ g
  intro a ha b hb g'
  by_cases hab : a = b
  · rw [hab]
  · exact put_comm (fun hmeaning => hab (List.inj_on_of_nodup_map hnodup ha hb hmeaning)) g'

end Arguments

namespace Config

/-- What has been given when the arguments of a configuration have been read. -/
def given (c : Config) (withRate : Bool) : Given where
  programFile := c.programFile
  eval := c.eval
  rate := if withRate then some c.rate else none
  headless := c.headless
  maxTicks := c.maxTicks
  logFile := c.logFile

theorem foldl_put_arguments (c : Config) (withRate : Bool) :
    (c.arguments withRate).foldl Given.put {} = c.given withRate := by
  rcases c with ⟨_ | programFile, _ | eval, rate, _ | _, _ | maxTicks, _ | logFile⟩ <;>
    cases withRate <;> rfl

/-- A configuration says each thing once. -/
theorem nodup_arguments (c : Config) (withRate : Bool) :
    ((c.arguments withRate).map Argument.meaning).Nodup := by
  rcases c with ⟨_ | programFile, _ | eval, rate, _ | _, _ | maxTicks, _ | logFile⟩ <;>
    cases withRate <;> simp [arguments, Argument.meaning]

theorem Valid.good_arguments {c : Config} (h : c.Valid) {withRate : Bool} {a : Argument}
    (ha : a ∈ c.arguments withRate) : a.Good := by
  unfold arguments at ha
  simp only [List.mem_append, List.mem_map, Option.mem_toList] at ha
  rcases ha with ((((⟨text, -, rfl⟩ | hrate) | hheadless) | ⟨n, hn, rfl⟩) | ⟨path, hpath, rfl⟩) |
    ⟨path, hpath, rfl⟩
  · trivial
  · split at hrate
    · obtain rfl := List.mem_singleton.mp hrate
      exact ⟨h.rate_pos, h.rate_lt⟩
    · cases hrate
  · split at hheadless
    · obtain rfl := List.mem_singleton.mp hheadless
      trivial
    · cases hheadless
  · exact h.maxTicks_lt n hn
  · rintro rfl
    exact h.logFile_ne hpath
  · rintro rfl
    exact h.programFile_ne hpath

/-- A valid configuration is what its arguments give. -/
theorem Valid.config_given {c : Config} (h : c.Valid) {withRate : Bool}
    (hrate : withRate = true ∨ c.rate = 60) : (c.given withRate).config = .ok c := by
  have hprogram : ¬(c.programFile.isSome ∧ c.eval.isSome) := by
    rintro ⟨hfile, heval⟩
    rcases h.one_program with hnone | hnone
    · rw [hnone] at hfile
      cases hfile
    · rw [hnone] at heval
      cases heval
  have hticks : ¬(c.maxTicks.isSome ∧ c.headless = false) := by
    rintro ⟨hsome, hheadless⟩
    have htrue := h.headless_of_maxTicks (Option.isSome_iff_ne_none.mp hsome)
    cases hheadless.symm.trans htrue
  have hvalue : (if withRate then some c.rate else none).getD 60 = c.rate := by
    rcases hrate with rfl | hsixty
    · rfl
    · cases withRate with
      | true => rfl
      | false => exact hsixty.symm
  unfold Given.config given
  simp only [hprogram, hticks, if_false, hvalue]

/-- Whatever way a valid configuration is written, it is read back. -/
theorem Valid.parse_of_writtenAs {c : Config} (h : c.Valid) {words : List String}
    (hwritten : c.WrittenAs words) : parse words = .ok c := by
  obtain ⟨withRate, arguments, hrate, hperm, hline⟩ := hwritten
  have hnodup : (arguments.map Argument.meaning).Nodup :=
    (hperm.map _).nodup_iff.mpr (c.nodup_arguments withRate)
  have hgood : ∀ a ∈ arguments, a.Good := fun a ha => h.good_arguments (hperm.mem_iff.mp ha)
  have hnew : ∀ a ∈ arguments, ({} : Given).holds a.meaning = false := by
    intro a _
    cases a <;> rfl
  obtain ⟨r', r'', hwords, hsettle, hgiven⟩ := Reading.At.line hline .start hgood hnodup hnew
  rw [Given.foldl_put_of_perm hperm hnodup, foldl_put_arguments] at hgiven
  unfold parse
  rw [hwords]
  change (r'.settle >>= fun r => r.given.config) = _
  rw [hsettle]
  change r''.given.config = _
  rw [hgiven, h.config_given hrate]

/-- Every option can be written with an equals sign. -/
theorem exists_group_of_ne {a : Argument} (h : a.meaning ≠ .slot .programFile) :
    ∃ words, Group a words := by
  cases a with
  | programFile path => exact absurd rfl h
  | eval text => exact ⟨_, .assigned rfl (.eval text)⟩
  | rate n => exact ⟨_, .assigned rfl (.rate (Decimal.toString n))⟩
  | headless => exact ⟨_, .headless⟩
  | maxTicks n => exact ⟨_, .assigned rfl (.maxTicks (Decimal.toString n))⟩
  | logFile path => exact ⟨_, .assigned rfl (.logFile path)⟩

/-- Options can be written one after the other, and the program file after two dashes. -/
theorem exists_line (programFile : Option String) (options : List Argument)
    (h : ∀ a ∈ options, a.meaning ≠ .slot .programFile) :
    ∃ words, Line (options ++ programFile.toList.map .programFile) words := by
  induction options with
  | nil =>
      cases programFile with
      | none => exact ⟨_, .nil⟩
      | some path => exact ⟨_, .escaped path⟩
  | cons a rest ih =>
      obtain ⟨words, hgroup⟩ := exists_group_of_ne (h a List.mem_cons_self)
      obtain ⟨more, hline⟩ := ih fun b hb => h b (List.mem_cons_of_mem a hb)
      exact ⟨_, .group hgroup hline⟩

/-- Every configuration can be written. -/
theorem exists_writtenAs (c : Config) : ∃ words, c.WrittenAs words := by
  have hoptions : ∀ a ∈ c.eval.toList.map Argument.eval ++ [.rate c.rate] ++
      (if c.headless then [.headless] else []) ++ c.maxTicks.toList.map .maxTicks ++
      c.logFile.toList.map .logFile, a.meaning ≠ .slot .programFile := by
    rcases c with ⟨_, _ | eval, rate, _ | _, _ | maxTicks, _ | logFile⟩ <;>
      simp [Argument.meaning]
  obtain ⟨words, hline⟩ := exists_line c.programFile _ hoptions
  exact ⟨words, true, _, .inl rfl, .refl _, hline⟩

end Config

namespace Arguments

/-! ## Only valid configurations are given -/

theorem exists_of_map_eq_ok {ε α β : Type} {x : Except ε α} {f : α → β} {b : β}
    (h : x.map f = .ok b) : ∃ a, x = .ok a ∧ f a = b := by
  cases x with
  | error e => cases h
  | ok a => exact ⟨a, rfl, Except.ok.inj h⟩

theorem exists_of_bind_eq_ok {ε α β : Type} {x : Except ε α} {f : α → Except ε β} {b : β}
    (h : (x >>= f) = .ok b) : ∃ a, x = .ok a ∧ f a = .ok b := by
  cases x with
  | error e => cases h
  | ok a => exact ⟨a, rfl, h⟩

theorem numberIn_eq_ok {lo hi n : Nat} {text : String} (h : numberIn lo hi text = .ok n) :
    lo ≤ n ∧ n ≤ hi := by
  unfold numberIn at h
  split at h
  · split at h
    case isTrue hrange =>
      obtain rfl := Except.ok.inj h
      exact hrange
    case isFalse => cases h
  · cases h

theorem path_eq_ok {text p : String} (h : path text = .ok p) : p ≠ "" := by
  unfold path at h
  split at h
  case isTrue => cases h
  case isFalse hne =>
    obtain rfl := Except.ok.inj h
    exact hne

/-- Everything that has been stored has been checked. -/
structure Given.Checked (g : Given) : Prop where
  rate : ∀ n, g.rate = some n → 1 ≤ n ∧ n < 0x100000000
  maxTicks : ∀ n, g.maxTicks = some n → n < 0x10000000000000000
  programFile : g.programFile ≠ some ""
  logFile : g.logFile ≠ some ""

namespace Given.Checked

theorem empty : Given.Checked {} := by
  constructor <;> simp

variable {g g' : Given}

theorem set (h : g.Checked) {slot : Slot} {text : String} (hset : g.set slot text = .ok g') :
    g'.Checked := by
  cases slot with
  | programFile =>
      obtain ⟨p, hpath, rfl⟩ := exists_of_map_eq_ok hset
      exact ⟨h.rate, h.maxTicks, fun heq => path_eq_ok hpath (Option.some.inj heq), h.logFile⟩
  | eval =>
      obtain rfl := Except.ok.inj hset
      exact ⟨h.rate, h.maxTicks, h.programFile, h.logFile⟩
  | rate =>
      obtain ⟨n, hn, rfl⟩ := exists_of_map_eq_ok hset
      obtain ⟨hlo, hhi⟩ := numberIn_eq_ok hn
      refine ⟨?_, h.maxTicks, h.programFile, h.logFile⟩
      intro m hm
      obtain rfl := Option.some.inj hm
      exact ⟨hlo, Nat.lt_succ_of_le hhi⟩
  | maxTicks =>
      obtain ⟨n, hn, rfl⟩ := exists_of_map_eq_ok hset
      refine ⟨h.rate, ?_, h.programFile, h.logFile⟩
      intro m hm
      obtain rfl := Option.some.inj hm
      exact Nat.lt_succ_of_le (numberIn_eq_ok hn).2
  | logFile =>
      obtain ⟨p, hpath, rfl⟩ := exists_of_map_eq_ok hset
      exact ⟨h.rate, h.maxTicks, h.programFile, fun heq => path_eq_ok hpath (Option.some.inj heq)⟩

theorem store (h : g.Checked) {slot : Slot} {value : Option String}
    (hstore : g.store slot value = .ok g') : g'.Checked := by
  unfold Given.store at hstore
  split at hstore
  · cases hstore
  · split at hstore
    · cases hstore
    · exact h.set hstore

theorem raise (h : g.Checked) {f : Flag} (hraise : g.raise f = .ok g') : g'.Checked := by
  cases f with
  | headless =>
      change (if g.headless then _ else Except.ok { g with headless := true }) = _ at hraise
      split at hraise
      · cases hraise
      · obtain rfl := Except.ok.inj hraise
        exact ⟨h.rate, h.maxTicks, h.programFile, h.logFile⟩
  | help => cases hraise
  | version => cases hraise

/-- What goes together is a valid configuration. -/
theorem config (h : g.Checked) {c : Config} (hconfig : g.config = .ok c) : c.Valid := by
  unfold Given.config at hconfig
  split at hconfig
  case isTrue => cases hconfig
  case isFalse hprogram =>
    split at hconfig
    case isTrue => cases hconfig
    case isFalse hticks =>
      obtain rfl := Except.ok.inj hconfig
      have hrate : 1 ≤ g.rate.getD 60 ∧ g.rate.getD 60 < 0x100000000 := by
        cases hgiven : g.rate with
        | none => decide
        | some n => exact h.rate n hgiven
      refine ⟨?_, ?_, hrate.1, hrate.2, h.maxTicks, h.programFile, h.logFile⟩
      · rw [Decidable.not_and_iff_or_not] at hprogram
        simpa using hprogram
      · intro hsome
        by_contra hheadless
        exact hticks ⟨Option.isSome_iff_ne_none.mpr hsome, Bool.eq_false_iff.mpr hheadless⟩

end Given.Checked

namespace Reading

variable {r r' : Reading}

theorem checked_settle (h : r.given.Checked) (hsettle : r.settle = .ok r') : r'.given.Checked := by
  unfold settle at hsettle
  split at hsettle
  · obtain rfl := Except.ok.inj hsettle
    exact h
  · obtain ⟨g, hstore, rfl⟩ := exists_of_map_eq_ok hsettle
    exact h.store hstore

theorem checked_option (h : r.given.Checked) {slot : Slot} {value : Option String}
    (hoption : r.option slot value = .ok r') : r'.given.Checked := by
  obtain ⟨r₁, hsettle, hrest⟩ := exists_of_bind_eq_ok hoption
  have hchecked := checked_settle h hsettle
  cases value with
  | none =>
      obtain rfl := Except.ok.inj hrest
      exact hchecked
  | some text =>
      obtain ⟨g, hstore, hg⟩ := exists_of_bind_eq_ok hrest
      obtain rfl := Except.ok.inj hg
      exact hchecked.store hstore

theorem checked_flag (h : r.given.Checked) {f : Flag} (hflag : r.flag f = .ok r') :
    r'.given.Checked := by
  obtain ⟨r₁, hsettle, hrest⟩ := exists_of_bind_eq_ok hflag
  obtain ⟨g, hraise, hg⟩ := exists_of_bind_eq_ok hrest
  obtain rfl := Except.ok.inj hg
  exact (checked_settle h hsettle).raise hraise

theorem checked_positional (h : r.given.Checked) {text : String}
    (hpositional : r.positional text = .ok r') : r'.given.Checked := by
  unfold Reading.positional at hpositional
  split at hpositional
  · cases hpositional
  · obtain ⟨r₁, hsettle, rfl⟩ := exists_of_map_eq_ok hpositional
    have hchecked : r₁.given.Checked := checked_settle h hsettle
    exact hchecked

/-- One word keeps what is stored checked. -/
theorem checked_word (h : r.given.Checked) {w : String} (hword : r.word w = .ok r') :
    r'.given.Checked := by
  unfold word at hword
  split at hword
  · exact checked_positional h hword
  · cases hform : Word.ofString w with
    | escape =>
        rw [hform] at hword
        obtain rfl := Except.ok.inj hword
        exact h
    | long name value =>
        simp only [hform] at hword
        split at hword
        · cases hword
        · exact checked_option h hword
        · split at hword
          · cases hword
          · exact checked_flag h hword
    | short letter rest =>
        simp only [hform] at hword
        split at hword
        · cases hword
        · exact checked_option h hword
        · exact checked_flag h hword
    | plain text =>
        simp only [hform] at hword
        unfold Reading.plain at hword
        split at hword
        · obtain rfl := Except.ok.inj hword
          exact h
        · exact checked_positional h hword

/-- All words keep what is stored checked. -/
theorem checked_words (words : List String) :
    ∀ {r : Reading}, r.given.Checked → words.foldlM word r = .ok r' → r'.given.Checked := by
  induction words with
  | nil =>
      intro r h hwords
      obtain rfl := Except.ok.inj hwords
      exact h
  | cons w rest ih =>
      intro r h hwords
      rw [List.foldlM_cons] at hwords
      obtain ⟨r₁, hword, hrest⟩ := exists_of_bind_eq_ok hwords
      exact ih (checked_word h hword) hrest

end Reading

/-- A command line gives nothing but valid configurations. -/
theorem valid_of_parse {words : List String} {c : Config} (h : parse words = .ok c) : c.Valid := by
  obtain ⟨r, hwords, hrest⟩ := exists_of_bind_eq_ok h
  obtain ⟨r', hsettle, hconfig⟩ := exists_of_bind_eq_ok hrest
  exact (Reading.checked_settle (Reading.checked_words words .empty hwords) hsettle).config hconfig

end Arguments

/-- A command line gives exactly the valid configurations.  What it gives is valid; every way of
writing a valid configuration gives that configuration, with a rate of sixty if none is written; and
every valid configuration can be written. -/
theorem parse_gives_exactly_valid :
    (∀ (words : List String) (c : Config), Arguments.parse words = .ok c → c.Valid) ∧
    (∀ (c : Config) (words : List String), c.Valid → c.WrittenAs words →
      Arguments.parse words = .ok c) ∧
    ∀ c : Config, c.Valid ↔ ∃ words, c.WrittenAs words ∧ Arguments.parse words = .ok c := by
  refine ⟨fun words c => valid_of_parse, fun c words hvalid => hvalid.parse_of_writtenAs, ?_⟩
  intro c
  constructor
  · intro hvalid
    obtain ⟨words, hwritten⟩ := c.exists_writtenAs
    exact ⟨words, hwritten, hvalid.parse_of_writtenAs hwritten⟩
  · rintro ⟨words, -, hparse⟩
    exact valid_of_parse hparse

/-- Values that begin with an equals sign or a dash, a number with a zero in front, and the options
in an order of their own. -/
theorem parse_of_mixed_spelling :
    let c : Config :=
      { programFile := some "-p", rate := 7, headless := true, maxTicks := some 0,
        logFile := some "=-" }
    let words := ["--max-ticks=0", "-r07", "--log-file", "=-", "--headless", "--", "-p"]
    c.Valid ∧ Arguments.parse words = .ok c := by
  intro c words
  obtain ⟨hvalid, hparse, -⟩ := parse_gives_exactly_valid
  have hseven : Decimal "07".toList 7 := .snoc (.digit (d := 0) (by decide)) (d := 7) (by decide)
  have hticks : Slot.maxTicks.name? = some "max-ticks" := rfl
  have hrate : Slot.rate.letter? = some 'r' := rfl
  have hlog : Slot.logFile.name? = some "log-file" := rfl
  have hline : Line [.maxTicks 0, .rate 7, .logFile "=-", .headless, .programFile "-p"] words :=
    .group (.assigned hticks (.maxTicks (Decimal.toString 0)))
      (.group (.letterAttached hrate (.rate hseven) (by decide) (by decide))
        (.group (.separate hlog (.logFile "=-") (by decide))
          (.group .headless (.escaped "-p"))))
  have hc : c.Valid := by
    refine ⟨.inr rfl, fun _ => rfl, by decide, by decide, ?_, by decide, by decide⟩
    intro n hn
    obtain rfl := Option.some.inj hn
    decide
  have hread := hparse c words hc ⟨true, _, .inl rfl, by decide, hline⟩
  exact ⟨hvalid words c hread, hread⟩

end TapeConsole
