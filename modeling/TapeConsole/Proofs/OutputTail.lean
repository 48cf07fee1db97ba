import Mathlib.Data.List.Forall2
import TapeConsole.Pane.Output
set_option autoImplicit false

/-!
# The tail of the output

The output pane cuts the output at its line feeds, keeps the last lines and shows
control characters by their pictures.  Joined again, the lines are the end of the
output, with no character exchanged but those.

To drop lines from the front is to drop characters up to a line feed
(`OutputPane.exists_intercalate_drop`).  The pictures are put in line by line; no line
has a line feed in it, so they are put in everywhere else
(`OutputPane.shownAs_intercalate`).
-/

namespace TapeConsole.OutputPane

/-! ## Cutting at a character -/

theorem length_splitOn (c : Char) (text : List Char) :
    (text.splitOn c).length = text.count c + 1 := by
  induction text with
  | nil => rfl
  | cons first rest ih =>
      rw [List.splitOn_cons_eq_if_modifyHead, List.count_cons]
      split
      · rw [List.length_cons, ih]
      · rw [List.length_modifyHead, ih, Nat.add_zero]

/-- No part has the character in it at which the text was cut. -/
theorem not_mem_of_mem_splitOn {c : Char} {text : List Char} :
    ∀ {line : List Char}, line ∈ text.splitOn c → c ∉ line := by
  induction text with
  | nil =>
      intro line hline
      obtain rfl := List.mem_singleton.mp hline
      exact List.not_mem_nil
  | cons first rest ih =>
      intro line hline
      rw [List.splitOn_cons_eq_if_modifyHead] at hline
      split at hline
      · cases hline with
        | head => exact List.not_mem_nil
        | tail _ hlater => exact ih hlater
      · rename_i hfirst
        cases hparts : rest.splitOn c with
        | nil => exact absurd hparts (List.splitOn_ne_nil c rest)
        | cons part parts =>
            -- The first character is put in front of the first part.
            rw [hparts, List.modifyHead_cons] at hline
            rw [hparts] at ih
            cases hline with
            | head =>
                intro hmem
                rcases List.mem_cons.mp hmem with rfl | hlater
                · exact hfirst (beq_self_eq_true c)
                · exact ih List.mem_cons_self hlater
            | tail _ hlater => exact ih (List.mem_cons_of_mem part hlater)

/-- Of lines that are joined, the last ones are the end of the text.  What is before it is nothing
or ends with the character that joins them. -/
theorem exists_intercalate_drop (c : Char) (lines : List (List Char)) :
    ∀ {k : Nat}, k < lines.length →
      ∃ before, [c].intercalate lines = before ++ [c].intercalate (lines.drop k) ∧
        (before = [] ∨ ∃ earlier, before = earlier ++ [c]) := by
  induction lines with
  | nil =>
      intro k hk
      exact absurd hk (Nat.not_lt_zero k)
  | cons line rest ih =>
      intro k hk
      cases k with
      | zero => exact ⟨[], rfl, .inl rfl⟩
      | succ k =>
          have hlt : k < rest.length := Nat.lt_of_succ_lt_succ hk
          have hrest : rest ≠ [] := List.ne_nil_of_length_pos (Nat.zero_lt_of_lt hlt)
          obtain ⟨before, hjoined, hbefore⟩ := ih hlt
          refine ⟨line ++ [c] ++ before, ?_, .inr ?_⟩
          · rw [List.intercalate_cons_of_ne_nil hrest, hjoined, List.drop_succ_cons,
              List.append_assoc, List.append_assoc, List.append_assoc]
          · rcases hbefore with rfl | ⟨earlier, rfl⟩
            · exact ⟨line, List.append_nil _⟩
            · exact ⟨line ++ [c] ++ earlier, (List.append_assoc _ _ _).symm⟩

/-! ## Pictures -/

/-- How a character of the output stands in the pane. -/
inductive ShownAs : Char → Char → Prop where
  /-- A line feed still ends a line. -/
  | lineFeed : ShownAs '\n' '\n'
  /-- Another control character is shown by the picture that has its code. -/
  | control {c shown : Char} (hne : c ≠ '\n') (hc : c.toNat < 0x20)
      (hshown : shown.toNat = 0x2400 + c.toNat) : ShownAs c shown
  /-- The delete character has a picture of its own. -/
  | delete {c shown : Char} (hc : c.toNat = 0x7F) (hshown : shown.toNat = 0x2421) : ShownAs c shown
  /-- Every other character stays as it is. -/
  | same {c : Char} (hge : 0x20 ≤ c.toNat) (hne : c.toNat ≠ 0x7F) : ShownAs c c

theorem toNat_picture_of_control {c : Char} (h : c.toNat < 0x20) :
    (picture c).toNat = 0x2400 + c.toNat := by
  have hvalid : (0x2400 + c.toNat).isValidChar := by
    unfold Nat.isValidChar
    omega
  rw [picture, if_pos h, Char.ofNat, dif_pos hvalid]
  rfl

theorem shownAs_picture {c : Char} (h : c ≠ '\n') : ShownAs c (picture c) := by
  by_cases hcontrol : c.toNat < 0x20
  · exact .control h hcontrol (toNat_picture_of_control hcontrol)
  · by_cases hdelete : c.toNat = 0x7F
    · refine .delete hdelete ?_
      rw [picture, if_neg hcontrol, if_pos hdelete]
      rfl
    · have hsame : picture c = c := by rw [picture, if_neg hcontrol, if_neg hdelete]
      rw [hsame]
      exact .same (Nat.not_lt.mp hcontrol) hdelete

/-- Apart from line feeds, no control character is shown as one. -/
theorem ShownAs.visible {c shown : Char} (h : ShownAs c shown) (hfeed : c ≠ '\n') :
    0x20 ≤ shown.toNat ∧ shown.toNat ≠ 0x7F := by
  cases h with
  | lineFeed => exact absurd rfl hfeed
  | control _ _ hshown => omega
  | delete _ hshown => omega
  | same hge hne => exact ⟨hge, hne⟩

theorem shownAs_map_picture {line : List Char} (h : '\n' ∉ line) :
    List.Forall₂ ShownAs line (line.map picture) := by
  rw [List.forall₂_map_right_iff, List.forall₂_same]
  intro c hc
  refine shownAs_picture ?_
  rintro rfl
  exact h hc

/-- Pictures in lines without line feeds are pictures of everything but the line feeds that join
them. -/
theorem shownAs_intercalate {lines : List (List Char)} (h : ∀ line ∈ lines, '\n' ∉ line) :
    List.Forall₂ ShownAs (['\n'].intercalate lines)
      (['\n'].intercalate (lines.map (·.map picture))) := by
  induction lines with
  | nil => exact .nil
  | cons line rest ih =>
      have hfirst := shownAs_map_picture (h line List.mem_cons_self)
      have hjoined := ih fun other hmem => h other (List.mem_cons_of_mem line hmem)
      cases rest with
      | nil => simpa using hfirst
      | cons next later =>
          -- The line feed between this line and the next one stands for itself.
          have hfeed : List.Forall₂ ShownAs ['\n'] ['\n'] := .cons .lineFeed .nil
          rw [List.map_cons, List.map_cons, List.intercalate_cons_cons,
            List.intercalate_cons_cons]
          exact List.rel_append (List.rel_append hfirst hfeed) hjoined

/-! ## The tail -/

/-- The last lines of an output as they were written. -/
def lastLines (output : String) (height : Nat) : List (List Char) :=
  (output.toList.splitOn '\n').drop ((output.toList.splitOn '\n').length - height)

theorem tailLines_eq (output : String) (height : Nat) :
    tailLines output height =
      (lastLines output height).map fun line => String.ofList (line.map picture) := rfl

theorem length_lastLines (output : String) (height : Nat) :
    (lastLines output height).length = min height (output.toList.count '\n' + 1) := by
  rw [lastLines, List.length_drop, length_splitOn]
  omega

theorem not_mem_of_mem_lastLines {output : String} {height : Nat} {line : List Char}
    (h : line ∈ lastLines output height) : '\n' ∉ line :=
  not_mem_of_mem_splitOn (List.mem_of_mem_drop h)

/-- The last lines, joined again, are the end of the output from a line feed on, or all of it. -/
theorem exists_eq_append_lastLines (output : String) {height : Nat} (h : 1 ≤ height) :
    ∃ before, output.toList = before ++ ['\n'].intercalate (lastLines output height) ∧
      (before = [] ∨ ∃ earlier, before = earlier ++ ['\n']) := by
  have hdrop : (output.toList.splitOn '\n').length - height <
      (output.toList.splitOn '\n').length := by
    rw [length_splitOn]
    omega
  obtain ⟨before, hsplit, hbefore⟩ := exists_intercalate_drop '\n' _ hdrop
  rw [List.intercalate_splitOn] at hsplit
  exact ⟨before, hsplit, hbefore⟩

theorem toList_intercalate_tailLines (output : String) (height : Nat) :
    ("\n".intercalate (tailLines output height)).toList =
      ['\n'].intercalate ((lastLines output height).map (·.map picture)) := by
  rw [String.toList_intercalate, tailLines_eq, List.map_map]
  congr 2
  funext line
  exact String.toList_ofList

/-- No control character is left in a line. -/
theorem visible_of_mem_tailLines {output line : String} {height : Nat}
    (hline : line ∈ tailLines output height) :
    ∀ c ∈ line.toList, 0x20 ≤ c.toNat ∧ c.toNat ≠ 0x7F := by
  intro c hc
  rw [tailLines_eq] at hline
  obtain ⟨original, horiginal, rfl⟩ := List.mem_map.mp hline
  rw [String.toList_ofList] at hc
  obtain ⟨d, hd, rfl⟩ := List.mem_map.mp hc
  have hfeed : d ≠ '\n' := by
    rintro rfl
    exact not_mem_of_mem_lastLines horiginal hd
  exact (shownAs_picture hfeed).visible hfeed

/-- The tail of the output is a faithful suffix of it.  There are as many lines as are asked for, or
as there are.  Joined by line feeds they are the end of the output, character by character, with
control characters shown by their pictures; and that end is all of the output, or begins after a
line feed.  In the lines there is no line feed and no other control character left. -/
theorem tail_is_faithful_suffix (output : String) (height : Nat) (h : 1 ≤ height) :
    let lines := tailLines output height
    lines.length = min height (output.toList.count '\n' + 1) ∧
    (∃ before suffix, output.toList = before ++ suffix ∧
      (before = [] ∨ ∃ earlier, before = earlier ++ ['\n']) ∧
      List.Forall₂ ShownAs suffix ("\n".intercalate lines).toList) ∧
    ∀ line ∈ lines, '\n' ∉ line.toList ∧ ∀ c ∈ line.toList, 0x20 ≤ c.toNat ∧ c.toNat ≠ 0x7F := by
  intro lines
  refine ⟨?_, ?_, ?_⟩
  · rw [← length_lastLines, show lines = _ from tailLines_eq output height, List.length_map]
  · obtain ⟨before, hsplit, hbefore⟩ := exists_eq_append_lastLines output h
    refine ⟨before, _, hsplit, hbefore, ?_⟩
    rw [toList_intercalate_tailLines]
    exact shownAs_intercalate fun line hline => not_mem_of_mem_lastLines hline
  · intro line hline
    have hvisible := visible_of_mem_tailLines hline
    refine ⟨?_, hvisible⟩
    intro hfeed
    exact absurd (hvisible '\n' hfeed).1 (by decide)

/-- A line feed at the end gives an empty last line; the line before it has a tab. -/
theorem tail_is_faithful_suffix_of_last_lines :
    (tailLines "a\nb\t\n" 2).length = 2 ∧
      ∃ before suffix, "a\nb\t\n".toList = before ++ suffix ∧
        (before = [] ∨ ∃ earlier, before = earlier ++ ['\n']) ∧
        List.Forall₂ ShownAs suffix ("\n".intercalate (tailLines "a\nb\t\n" 2)).toList := by
  obtain ⟨hlength, hsuffix, -⟩ := tail_is_faithful_suffix "a\nb\t\n" 2 (by decide)
  exact ⟨hlength.trans (by decide), hsuffix⟩

end TapeConsole.OutputPane
