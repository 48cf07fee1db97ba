import Mathlib.Algebra.Order.Floor.Div
import TapeConsole.Pane.Program
import TapeConsole.Proofs.Invariant
set_option autoImplicit false

/-!
# The rows of the program pane

A program is cut into rows as wide as the pane, and the rows from some offset on are
drawn, as many as fit.  Row `r` starts at position `r * width`, so an instruction at
`position` is in row `position / width` and column `position % width`.

The rows are taken from the program where they are wanted.  That gives the same lines as
cutting the whole program into chunks, drawing them all and keeping those in view
(`ProgramPane.rows_eq_chunks`).

`ProgramPane.drawnAt_rows` says what is drawn in each row and column.  What is marked and
where follows from it, once it is known that the row of the current instruction is among
those drawn (`ProgramPane.scrollOffset_around`).
-/

namespace TapeConsole.ProgramPane

/-- What is drawn in row `r` and column `c` of some lines. -/
def drawnAt (lines : List Line) (r c : Nat) : Option Segment := lines[r]?.bind (·.segments[c]?)

/-- What is drawn for the instruction `i` at `position`. -/
def segment (v : View) (position : Nat) (i : Instruction) : Segment :=
  ⟨i.toChar.toString, if v.highlight = some position then highlightStyle else instructionStyle i⟩

/-! ## Rows as parts of the program -/

theorem segments_row (v : View) (width r : Nat) :
    (row v width r).segments =
      (((v.program.toList.drop (r * width)).take width).zipIdx (r * width)).map
        fun (i, position) => segment v position i := rfl

theorem length_segments_row_le (v : View) (width r : Nat) :
    (row v width r).segments.length ≤ width := by
  rw [segments_row, List.length_map, List.length_zipIdx]
  exact List.length_take_le _ _

theorem getElem?_segments_row (v : View) (width r : Nat) {c : Nat} (hc : c < width) :
    (row v width r).segments[c]? =
      (v.program.get? (r * width + c)).map (segment v (r * width + c)) := by
  rw [segments_row, List.getElem?_map, List.getElem?_zipIdx, List.getElem?_take, if_pos hc,
    List.getElem?_drop, Option.map_map, Program.get?_eq_getElem?]
  rfl

theorem texts_row (v : View) (width r : Nat) :
    (row v width r).segments.map (·.text) =
      ((v.program.toList.drop (r * width)).take width).map (·.toChar.toString) := by
  rw [segments_row, List.map_map]
  have hfst : (fun s : Segment => s.text) ∘ (fun (x : Instruction × Nat) => segment v x.2 x.1) =
      (fun i : Instruction => i.toChar.toString) ∘ Prod.fst := rfl
  rw [hfst, ← List.map_map, List.zipIdx_map_fst]

/-- Consecutive rows of equal width are one part of the list. -/
theorem flatMap_rows {α : Type} (l : List α) (width : Nat) (count : Nat) :
    ∀ first : Nat,
      (List.range' first count).flatMap (fun r => (l.drop (r * width)).take width) =
        (l.drop (first * width)).take (count * width) := by
  induction count with
  | zero =>
      intro first
      simp
  | succ count ih =>
      intro first
      rw [List.range'_succ, List.flatMap_cons, ih, Nat.succ_mul, Nat.succ_mul,
        Nat.add_comm (count * width), List.take_add, List.drop_drop]

/-! ## Which rows are drawn -/

theorem rowCount_eq_ceilDiv (length width : Nat) (hwidth : 0 < width) :
    rowCount length width = length ⌈/⌉ width := by
  rw [rowCount, Nat.ceilDiv_eq_add_pred_div, Nat.add_sub_assoc hwidth]

/-- There is a row for each position of the program, and no row is empty. -/
theorem lt_rowCount_iff {length width r : Nat} (hwidth : 0 < width) :
    r < rowCount length width ↔ r * width < length := by
  rw [rowCount, Nat.lt_iff_add_one_le, Nat.le_div_iff_mul_le hwidth, Nat.succ_mul]
  omega

/-- The rows drawn are rows of the program. -/
theorem scrollOffset_le (current : Option Nat) (total visible : Nat) :
    scrollOffset current total visible ≤ total - visible := by
  unfold scrollOffset
  split <;> omega

/-- The row of the current instruction is among the rows drawn. -/
theorem scrollOffset_around {current total visible : Nat} (hcurrent : current < total)
    (hvisible : 0 < visible) :
    scrollOffset (some current) total visible ≤ current ∧
      current < scrollOffset (some current) total visible + min visible total := by
  simp only [scrollOffset]
  omega

/-- The first row that is drawn of a view. -/
def firstRow (v : View) (width visible : Nat) : Nat :=
  scrollOffset (v.highlight.map (· / width)) (rowCount v.program.length width) visible

theorem rows_eq (v : View) (width visible : Nat) :
    rows v width visible =
      (List.range' (firstRow v width visible)
        (min visible (rowCount v.program.length width))).map (row v width) := by
  have hle := scrollOffset_le (v.highlight.map (· / width)) (rowCount v.program.length width) visible
  have hcount : min visible (rowCount v.program.length width - firstRow v width visible) =
      min visible (rowCount v.program.length width) := by
    unfold firstRow
    omega
  rw [← hcount]
  rfl

theorem length_rows (v : View) (width visible : Nat) :
    (rows v width visible).length = min visible (rowCount v.program.length width) := by
  rw [rows_eq, List.length_map, List.length_range']

/-- What is drawn in each row and column. -/
theorem drawnAt_rows (v : View) (width visible : Nat) {r c : Nat}
    (hr : r < min visible (rowCount v.program.length width)) (hc : c < width) :
    drawnAt (rows v width visible) r c =
      (v.program.get? ((firstRow v width visible + r) * width + c)).map
        (segment v ((firstRow v width visible + r) * width + c)) := by
  have hrow : (rows v width visible)[r]? = some (row v width (firstRow v width visible + r)) := by
    rw [rows_eq, List.getElem?_map, List.getElem?_range' hr, Nat.one_mul]
    rfl
  rw [drawnAt, hrow, Option.bind_some, getElem?_segments_row v width _ hc]

/-- Nothing is drawn anywhere else. -/
theorem lt_of_drawnAt_rows {v : View} {width visible r c : Nat} {s : Segment}
    (h : drawnAt (rows v width visible) r c = some s) :
    r < min visible (rowCount v.program.length width) ∧ c < width := by
  obtain ⟨line, hline, hsegment⟩ := Option.bind_eq_some_iff.mp h
  have hr := (List.getElem?_eq_some_iff.mp hline).1
  have hc := (List.getElem?_eq_some_iff.mp hsegment).1
  rw [length_rows] at hr
  rw [rows_eq] at hline
  obtain ⟨number, -, rfl⟩ := List.mem_map.mp (List.mem_of_getElem? hline)
  exact ⟨hr, Nat.lt_of_lt_of_le hc (length_segments_row_le v width number)⟩

/-- The rows together show one part of the program. -/
theorem texts_rows (v : View) {width visible : Nat} (hwidth : 0 < width) :
    ((rows v width visible).flatMap (·.segments)).map (·.text) =
      (v.program.toList.extract (firstRow v width visible * width)
        (min v.program.length ((firstRow v width visible + visible) * width))).map
          (·.toChar.toString) := by
  have hlist : ((rows v width visible).flatMap (·.segments)).map (·.text) =
      ((v.program.toList.drop (firstRow v width visible * width)).take
        (min visible (rowCount v.program.length width) * width)).map (·.toChar.toString) := by
    rw [← flatMap_rows, rows_eq, List.flatMap_map, List.map_flatMap, List.map_flatMap]
    congr 1
    funext r
    exact texts_row v width r
  rw [hlist, List.extract_eq_take_drop]
  congr 1
  -- Both take at least what is left of the program, or the same number of instructions.
  rw [List.take_eq_take_iff, List.length_drop, Program.length_toList, Nat.add_mul]
  have hoffset : firstRow v width visible ≤ rowCount v.program.length width - visible :=
    scrollOffset_le _ _ _
  rcases Nat.le_total visible (rowCount v.program.length width) with hle | hle
  · rw [Nat.min_eq_left hle]
    omega
  · have hfirst : firstRow v width visible = 0 := by omega
    have hall : v.program.length ≤ rowCount v.program.length width * width :=
      Nat.not_lt.mp fun hlt =>
        absurd ((lt_rowCount_iff hwidth).mpr hlt) (Nat.lt_irrefl _)
    have hmore : rowCount v.program.length width * width ≤ visible * width :=
      Nat.mul_le_mul_right width hle
    rw [Nat.min_eq_right hle, hfirst]
    omega

/-! ## Rows as chunks -/

/-- A list in chunks of `width` elements, of which the last may be shorter. -/
def chunks {α : Type} (width : Nat) : List α → List (List α)
  | [] => []
  | a :: rest => (a :: rest.take (width - 1)) :: chunks width (rest.drop (width - 1))
termination_by l => l.length
decreasing_by
  rw [List.length_drop, List.length_cons]
  omega

/-- One row more for every `width` elements more. -/
theorem rowCount_cons {α : Type} {width : Nat} (hwidth : 0 < width) (a : α) (rest : List α) :
    rowCount (a :: rest).length width = rowCount (rest.drop (width - 1)).length width + 1 := by
  have hsum : rest.length + 1 + (width - 1) = rest.length + width := by omega
  rw [rowCount, List.length_cons, hsum, Nat.add_div_right _ hwidth, rowCount, List.length_drop]
  congr 1
  rcases Nat.le_total (width - 1) rest.length with hle | hle
  · rw [Nat.sub_add_cancel hle]
  · rw [Nat.sub_eq_zero_of_le hle, Nat.zero_add, Nat.div_eq_of_lt (by omega),
      Nat.div_eq_of_lt (by omega)]

/-- Chunk number `r` starts at `r` times the width.  The induction goes along the chunks. -/
theorem chunks_eq {α : Type} {width : Nat} (hwidth : 0 < width) (l : List α) :
    chunks width l =
      (List.range (rowCount l.length width)).map fun r => (l.drop (r * width)).take width := by
  induction l using chunks.induct width with
  | case1 =>
      have hnone : rowCount ([] : List α).length width = 0 := Nat.div_eq_of_lt (by simp; omega)
      rw [chunks, hnone]
      rfl
  | case2 a rest ih =>
      obtain ⟨w, rfl⟩ : ∃ w, width = w + 1 := ⟨width - 1, by omega⟩
      have hlater : ∀ r : Nat, (a :: rest).drop ((r + 1) * (w + 1)) =
          (rest.drop w).drop (r * (w + 1)) := by
        intro r
        rw [List.drop_drop, Nat.succ_mul, ← Nat.add_assoc, List.drop_succ_cons,
          Nat.add_comm w (r * (w + 1))]
      rw [chunks, ih, rowCount_cons hwidth, List.range_succ_eq_map, List.map_cons, List.map_map]
      simp only [Function.comp_def, Nat.succ_eq_add_one, hlater, Nat.add_sub_cancel, Nat.zero_mul,
        List.drop_zero, List.take_succ_cons]

/-- A chunk as a line, if it is chunk number `r`. -/
def chunkLine (v : View) (width : Nat) (chunk : List Instruction) (r : Nat) : Line :=
  ⟨chunk.zipIdx.map fun (i, c) => segment v (r * width + c) i, .left⟩

theorem row_eq_chunkLine (v : View) (width r : Nat) :
    row v width r = chunkLine v width ((v.program.toList.drop (r * width)).take width) r := by
  have hsegments := segments_row v width r
  rw [List.zipIdx_eq_map_add, List.map_map] at hsegments
  exact congrArg (Line.mk · .left) hsegments

/-- The lines of all chunks are all rows. -/
theorem chunkLines_eq (v : View) {width : Nat} (hwidth : 0 < width) :
    ((chunks width v.program.toList).zipIdx.map fun (chunk, r) => chunkLine v width chunk r) =
      (List.range (rowCount v.program.length width)).map (row v width) := by
  rw [chunks_eq hwidth, Program.length_toList]
  apply List.ext_getElem?
  intro r
  rw [List.getElem?_map, List.getElem?_zipIdx, List.getElem?_map, List.getElem?_map]
  by_cases hr : r < rowCount v.program.length width
  · rw [List.getElem?_range hr, Option.map_some, Option.map_some, Option.map_some, Option.map_some,
      Nat.zero_add, row_eq_chunkLine]
  · rw [List.getElem?_eq_none (by rw [List.length_range]; exact Nat.not_lt.mp hr)]
    rfl

/-- All chunks are drawn, the first ones skipped, and as many of the others taken as fit. -/
theorem rows_eq_chunks (v : View) {width : Nat} (hwidth : 0 < width) (visible : Nat) :
    rows v width visible =
      (((chunks width v.program.toList).zipIdx.map fun (chunk, r) => chunkLine v width chunk r).drop
        (firstRow v width visible)).take visible := by
  have htake : ∀ first count : Nat, (List.range' first count).take visible =
      List.range' first (min visible count) := by
    intro first count
    rw [List.range'_eq_map_range, List.range'_eq_map_range, ← List.map_take, List.take_range]
  rw [chunkLines_eq v hwidth, List.range_eq_range', ← List.map_drop, List.drop_range',
    ← List.map_take, htake, Nat.mul_one, Nat.zero_add]
  rfl

/-! ## What is marked -/

theorem instructionStyle_ne_highlightStyle (i : Instruction) :
    instructionStyle i ≠ highlightStyle := by
  intro h
  cases congrArg Style.bg h

theorem style_segment_eq_iff (v : View) (position : Nat) (i : Instruction) :
    (segment v position i).style = highlightStyle ↔ v.highlight = some position := by
  unfold segment
  split
  · rename_i hcurrent
    exact ⟨fun _ => hcurrent, fun _ => rfl⟩
  · rename_i hother
    exact ⟨fun h => absurd h (instructionStyle_ne_highlightStyle i), fun h => absurd h hother⟩

/-- Something drawn is marked if it stands where the current instruction has to be. -/
theorem style_drawnAt_eq_iff {v : View} {width visible r c : Nat} {s : Segment}
    (h : drawnAt (rows v width visible) r c = some s) :
    s.style = highlightStyle ↔
      v.highlight = some ((firstRow v width visible + r) * width + c) := by
  obtain ⟨hr, hc⟩ := lt_of_drawnAt_rows h
  rw [drawnAt_rows v width visible hr hc] at h
  obtain ⟨i, -, rfl⟩ := Option.map_eq_some_iff.mp h
  exact style_segment_eq_iff v _ i

theorem highlight_lt {v : View} {position : Nat} (h : v.highlight = some position) :
    position < v.program.length :=
  of_decide_eq_true (Option.filter_eq_some_iff.mp h).2

/-- The current instruction is drawn and marked, in the row and the column of its position. -/
theorem drawnAt_current {v : View} {width visible position : Nat} (hwidth : 0 < width)
    (hvisible : 0 < visible) (h : v.highlight = some position) :
    firstRow v width visible ≤ position / width ∧
      ∃ i, v.program.get? position = some i ∧
        drawnAt (rows v width visible) (position / width - firstRow v width visible)
          (position % width) = some ⟨i.toChar.toString, highlightStyle⟩ := by
  have hlt : position < v.program.length := highlight_lt h
  have hrow : position / width < rowCount v.program.length width :=
    (lt_rowCount_iff hwidth).mpr (Nat.lt_of_le_of_lt (Nat.div_mul_le_self _ _) hlt)
  have hfirst : firstRow v width visible =
      scrollOffset (some (position / width)) (rowCount v.program.length width) visible := by
    rw [firstRow, h]
    rfl
  obtain ⟨hle, hlast⟩ := scrollOffset_around hrow hvisible
  rw [← hfirst] at hle hlast
  have hposition : (firstRow v width visible + (position / width - firstRow v width visible)) *
      width + position % width = position := by
    rw [Nat.add_sub_cancel' hle, Nat.mul_comm, Nat.div_add_mod]
  obtain ⟨i, hget⟩ := Program.exists_get?_of_lt_length hlt
  refine ⟨hle, i, hget, ?_⟩
  rw [drawnAt_rows v width visible (by omega) (Nat.mod_lt position hwidth), hposition, hget,
    Option.map_some, segment, if_pos h]

/-- Nothing else is marked. -/
theorem eq_current_of_marked {v : View} {width visible position r c : Nat} {s : Segment}
    (h : v.highlight = some position) (hdrawn : drawnAt (rows v width visible) r c = some s)
    (hmarked : s.style = highlightStyle) :
    r = position / width - firstRow v width visible ∧ c = position % width := by
  have hc := (lt_of_drawnAt_rows hdrawn).2
  have hwidth : 0 < width := Nat.zero_lt_of_lt hc
  obtain rfl := Option.some.inj (h.symm.trans ((style_drawnAt_eq_iff hdrawn).mp hmarked))
  rw [Nat.add_comm _ c, Nat.add_mul_div_right c _ hwidth, Nat.div_eq_of_lt hc,
    Nat.add_mul_mod_self_right, Nat.mod_eq_of_lt hc]
  exact ⟨by omega, rfl⟩

/-! ## What is drawn of an engine -/

theorem lines_panel {v : View} (h : 0 < v.program.length) (a : Area) :
    (panel v a).lines = rows v (max 1 (a.width - 2)) (max 1 (a.height - 2)) := by
  have hsome : v.program.isEmpty = false := by
    rw [Program.isEmpty, Array.isEmpty_eq_false_iff]
    exact Array.ne_empty_of_size_pos h
  simp only [panel, hsome]
  rfl

/-- Nothing is marked before the first instruction and after the end, and only then. -/
theorem highlight_view_eq_none_iff {e : Engine} (h : e.Invariant) :
    e.view.highlight = none ↔ e.ip = none ∨ e.halted = true := by
  rw [Option.eq_none_iff_forall_ne_some]
  simp only [ne_eq, h.highlight_view_eq_some_iff]
  cases hip : e.ip with
  | none => simp
  | some position => cases e.halted <;> simp

/-- The program pane shows a part of the program with the current instruction in it.  Take the view
of any engine between two calls and any area, with room for `n` rows of `w` instructions.  As many
rows are drawn as there are or as fit, none of them wider than the pane, and together they show the
instructions from the first row on, without a gap.  An instruction that is current is drawn and
marked, in the row and the column of its position, and nothing else is.  If there is none, which is
so before the first instruction and after the end, nothing is marked and the rows are the first
ones.  The lines are those of the program in chunks, from the first row on. -/
theorem rows_show_current_instruction (p : Program) (calls : List Call) (a : Area)
    (h : 0 < p.length) :
    let e := (Engine.load p).after calls
    let v := e.view
    let w := max 1 (a.width - 2)
    let n := max 1 (a.height - 2)
    let offset := scrollOffset (v.highlight.map (· / w)) (p.length ⌈/⌉ w) n
    let lines := (panel v a).lines
    lines.length = min n (p.length ⌈/⌉ w) ∧
    (∀ line ∈ lines, line.segments.length ≤ w) ∧
    (lines.flatMap (·.segments)).map (·.text) =
      (p.toList.extract (offset * w) (min p.length ((offset + n) * w))).map (·.toChar.toString) ∧
    (∀ ip, v.highlight = some ip →
      (offset ≤ ip / w ∧ ∃ i, p.get? ip = some i ∧
        drawnAt lines (ip / w - offset) (ip % w) = some ⟨i.toChar.toString, highlightStyle⟩) ∧
      ∀ r c s, drawnAt lines r c = some s → s.style = highlightStyle →
        r = ip / w - offset ∧ c = ip % w) ∧
    (v.highlight = none ↔ e.ip = none ∨ e.halted = true) ∧
    (v.highlight = none →
      offset = 0 ∧ ∀ r c s, drawnAt lines r c = some s → s.style ≠ highlightStyle) ∧
    (chunks w p.toList).length = p.length ⌈/⌉ w ∧
    lines = (((chunks w p.toList).zipIdx.map fun (chunk, r) => chunkLine v w chunk r).drop
      offset).take n := by
  intro e v w n offset lines
  have hprogram : v.program = p := Engine.program_after (Engine.load p) calls
  have hw : 0 < w := Nat.le_max_left 1 _
  have hn : 0 < n := Nat.le_max_left 1 _
  have hlines : lines = rows v w n := lines_panel (hprogram ▸ h) a
  have htotal : rowCount v.program.length w = p.length ⌈/⌉ w := by
    rw [rowCount_eq_ceilDiv _ _ hw, hprogram]
  have hoffset : offset = firstRow v w n := by rw [firstRow, htotal]
  rw [hlines, hoffset, ← htotal]
  refine ⟨length_rows v w n, ?_, ?_, ?_,
    highlight_view_eq_none_iff (Engine.invariant_after p calls), ?_, ?_, ?_⟩
  · intro line hline
    rw [rows_eq] at hline
    obtain ⟨r, -, rfl⟩ := List.mem_map.mp hline
    exact length_segments_row_le v w r
  · rw [← hprogram]
    exact texts_rows v hw
  · intro ip hip
    refine ⟨?_, fun r c s hdrawn hmarked => eq_current_of_marked hip hdrawn hmarked⟩
    rw [← hprogram]
    exact drawnAt_current hw hn hip
  · intro hnone
    constructor
    · rw [firstRow, hnone]
      rfl
    · intro r c s hdrawn hmarked
      cases hnone.symm.trans ((style_drawnAt_eq_iff hdrawn).mp hmarked)
  · rw [chunks_eq hw, List.length_map, List.length_range, Program.length_toList, hprogram]
  · rw [← hprogram]
    exact rows_eq_chunks v hw n

/-- In a pane with room for one row of two instructions, the last one of `>>>+` is drawn in the
second column of the second row. -/
theorem rows_show_current_instruction_of_small_pane :
    let p := Program.ofList [.right, .right, .right, .increment]
    let v := ((Engine.load p).after (List.replicate 223 .tick)).view
    let offset := scrollOffset (v.highlight.map (· / 2)) (p.length ⌈/⌉ 2) 1
    0 < p.length ∧ v.highlight = some 3 ∧ offset = 1 ∧
      ∃ i, p.get? 3 = some i ∧
        drawnAt (panel v ⟨0, 0, 4, 3⟩).lines (3 / 2 - offset) (3 % 2) =
          some ⟨i.toChar.toString, highlightStyle⟩ := by
  intro p v offset
  have hmark : v.highlight = some 3 := by decide +kernel
  have hoffset : offset = 1 := by
    simp only [offset, hmark]
    decide
  obtain ⟨-, -, -, hcurrent, -⟩ :=
    rows_show_current_instruction p (List.replicate 223 .tick) ⟨0, 0, 4, 3⟩ (by decide)
  exact ⟨by decide, hmark, hoffset, (hcurrent 3 hmark).1.2⟩

end TapeConsole.ProgramPane
