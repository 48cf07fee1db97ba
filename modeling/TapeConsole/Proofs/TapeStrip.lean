import TapeConsole.Pane.Tape
import TapeConsole.Proofs.Calls
set_option autoImplicit false

/-!
# The strip of cells in the tape pane

The width of a box, the number of boxes, the first cell drawn and the free columns
at the left are computed one after the other, each rounded down.
`TapePane.layout_places` says that they agree: the boxes fit into the pane and the
current cell is among them.

A row of the strip is then a row of blocks of equal width, one for each cell, because
every text is brought to the width of its box (`TapePane.length_centered`).  So a
cell stands in the same columns in all five rows, and the one arrow is under the
current one.  What is seen of a text in its box is said by `TapePane.Centered`, and
which cells are drawn by `TapePane.window`.
-/

namespace TapeConsole

/-- The characters of styled text from left to right. -/
def charactersOf (segments : List Segment) : List Char := segments.flatMap (·.text.toList)

theorem charactersOf_append (first second : List Segment) :
    charactersOf (first ++ second) = charactersOf first ++ charactersOf second := by
  simp [charactersOf]

theorem charactersOf_flatMap {α : Type} (f : α → List Segment) (l : List α) :
    charactersOf (l.flatMap f) = l.flatMap fun a => charactersOf (f a) := by
  simp [charactersOf, List.flatMap_assoc]

namespace TapePane

/-! ## Blocks of equal width -/

theorem length_flatMap_of_uniform {α : Type} {f : α → List Char} {width : Nat} {l : List α}
    (h : ∀ a ∈ l, (f a).length = width) : (l.flatMap f).length = l.length * width := by
  induction l with
  | nil => simp
  | cons a rest ih =>
      rw [List.flatMap_cons, List.length_append, h a List.mem_cons_self,
        ih fun b hb => h b (List.mem_cons_of_mem a hb), List.length_cons, Nat.succ_mul]
      omega

/-- Of blocks of equal width, number `k` starts after `k` times that width. -/
theorem drop_flatMap_of_uniform {α : Type} {f : α → List Char} {width : Nat} {l : List α}
    (h : ∀ a ∈ l, (f a).length = width) {k : Nat} {a : α} (hk : l[k]? = some a) :
    ∃ rest, (l.flatMap f).drop (k * width) = f a ++ rest := by
  induction l generalizing k with
  | nil => cases hk
  | cons b later ih =>
      cases k with
      | zero =>
          obtain rfl := Option.some.inj hk
          exact ⟨later.flatMap f, by simp⟩
      | succ k =>
          obtain ⟨rest, hrest⟩ := ih (fun c hc => h c (List.mem_cons_of_mem b hc)) hk
          refine ⟨rest, ?_⟩
          have hfirst : (f b).length = width := h b List.mem_cons_self
          rw [List.flatMap_cons, Nat.succ_mul, Nat.add_comm, ← List.drop_drop, ← hfirst,
            List.drop_left, hfirst, hrest]

/-! ## Texts are brought to a width -/

@[simp] theorem toList_blanks (n : Nat) : (blanks n).toList = List.replicate n ' ' := by
  simp [blanks]

theorem toList_centered_of_le {text : String} {width : Nat} (h : text.length ≤ width) :
    (centered text width).toList =
      List.replicate ((width - text.length) / 2) ' ' ++ text.toList ++
        List.replicate (width - text.length - (width - text.length) / 2) ' ' := by
  unfold centered
  rw [if_neg (Nat.not_lt.mpr h)]
  simp

/-- What is seen of a text in the middle of `width` columns. -/
inductive Centered (text : List Char) (width : Nat) : List Char → Prop
  /-- All of it between blanks, of which the odd one is at the right. -/
  | whole (left right : Nat) (hfull : left + text.length + right = width)
      (heven : left ≤ right ∧ right ≤ left + 1) :
      Centered text width (List.replicate left ' ' ++ text ++ List.replicate right ' ')
  /-- The end of a text that is too long, after a mark. -/
  | cut (gone kept : List Char) (htext : text = gone ++ kept) (hlong : width < text.length)
      (hfull : kept.length + 1 = width) : Centered text width ('…' :: kept)

theorem centered_centered (text : String) {width : Nat} (h : 0 < width) :
    Centered text.toList width (centered text width).toList := by
  by_cases hlong : width < text.length
  · unfold centered
    rw [if_pos hlong, String.toList_ofList]
    refine .cut (text.toList.take (text.length - (width - 1))) _
      (List.take_append_drop _ _).symm ?_ ?_
    · rw [String.length_toList]
      exact hlong
    · rw [List.length_drop, String.length_toList]
      omega
  · rw [toList_centered_of_le (Nat.not_lt.mp hlong)]
    refine .whole _ _ ?_ ?_
    · rw [String.length_toList]
      omega
    · omega

theorem Centered.length_eq {text shown : List Char} {width : Nat} (h : Centered text width shown) :
    shown.length = width := by
  cases h with
  | whole left right hfull _ =>
      rw [List.length_append, List.length_append, List.length_replicate, List.length_replicate]
      exact hfull
  | cut gone kept _ _ hfull => exact hfull

/-- Text is given exactly the columns it is centered in, whether it is filled up or cut. -/
theorem length_centered (text : String) {width : Nat} (h : 0 < width) :
    (centered text width).toList.length = width :=
  (centered_centered text h).length_eq

/-! ## The rows of a box -/

/-- The five rows of a box from the top. -/
def Box.rows : List (Box → List Segment) := [Box.top, Box.value, Box.glyph, Box.bottom, Box.arrow]

theorem length_side (start finish : Char) (width : Nat) :
    (side start finish width).toList.length = width + 2 := by
  simp [side]

theorem charactersOf_singleton (text : String) (style : Style) :
    charactersOf [⟨text, style⟩] = text.toList := by
  simp [charactersOf]

theorem charactersOf_between (text : String) (style edge : Style) :
    charactersOf [⟨"│", edge⟩, ⟨text, style⟩, ⟨"│", edge⟩] = '│' :: (text.toList ++ ['│']) := by
  have hedge : "│".toList = ['│'] := String.toList_ofList
  simp only [charactersOf, List.flatMap_cons, List.flatMap_nil, hedge, List.singleton_append,
    List.append_nil]

/-- Every row of a box has as many characters as the box has columns. -/
theorem length_row_box {columns : Nat} (hcolumns : 3 ≤ columns) (value : Int64) (isCurrent : Bool)
    {row : Box → List Segment} (hrow : row ∈ Box.rows) :
    (charactersOf (row (box columns value isCurrent))).length = columns := by
  have hside : ∀ (start finish : Char) (style : Style),
      (charactersOf [⟨side start finish (columns - 2), style⟩]).length = columns := by
    intro start finish style
    rw [charactersOf_singleton, length_side]
    omega
  have hbetween : ∀ (text : String) (style edge : Style),
      (charactersOf [⟨"│", edge⟩, ⟨centered text (columns - 2), style⟩, ⟨"│", edge⟩]).length =
        columns := by
    intro text style edge
    rw [charactersOf_between, List.length_cons, List.length_append, List.length_singleton,
      length_centered text (by omega)]
    omega
  simp only [Box.rows, List.mem_cons, List.not_mem_nil, or_false] at hrow
  rcases hrow with rfl | rfl | rfl | rfl | rfl
  · exact hside _ _ _
  · exact hbetween _ _ _
  · exact hbetween _ _ _
  · exact hside _ _ _
  · unfold box
    rw [charactersOf_singleton]
    exact length_centered _ (by omega)

/-- The number of a cell and its character are seen between the edges of its box. -/
theorem texts_box {columns : Nat} (hcolumns : 3 ≤ columns) (value : Int64) (isCurrent : Bool) :
    (∃ shown, Centered (toString value.toInt).toList (columns - 2) shown ∧
      charactersOf (box columns value isCurrent).value = '│' :: (shown ++ ['│'])) ∧
    ∃ shown, Centered (glyphText value).toList (columns - 2) shown ∧
      charactersOf (box columns value isCurrent).glyph = '│' :: (shown ++ ['│']) :=
  ⟨⟨_, centered_centered _ (by omega), charactersOf_between _ _ _⟩,
    ⟨_, centered_centered _ (by omega), charactersOf_between _ _ _⟩⟩

/-- There is an arrow under the current cell and no other. -/
theorem count_arrow_box {columns : Nat} (hcolumns : 1 ≤ columns) (value : Int64)
    (isCurrent : Bool) :
    (charactersOf (box columns value isCurrent).arrow).count '▲' = isCurrent.toNat := by
  have hnone : ∀ n : Nat, (List.replicate n ' ').count '▲' = 0 := by
    intro n
    rw [List.count_replicate]
    rfl
  have hchars : ∀ text : String, text.length ≤ columns →
      (centered text columns).toList.count '▲' = text.toList.count '▲' := by
    intro text hle
    rw [toList_centered_of_le hle, List.count_append, List.count_append, hnone, hnone]
    omega
  unfold box
  rw [charactersOf_singleton]
  cases isCurrent with
  | false => exact hchars "" (Nat.zero_le columns)
  | true => exact (hchars "▲" hcolumns).trans (by decide)

/-! ## The layout -/

theorem boxColumns_bounds (inner : Nat) (width : Float) :
    minColumns ≤ boxColumns inner width ∧ boxColumns inner width ≤ maxColumns := by
  simp only [boxColumns, minColumns, maxColumns]
  omega

/-- Where at least one box fits, as many boxes as there are slots fit with the gaps between
them. -/
theorem slots_fit {inner columns : Nat} (h : columns ≤ inner) :
    0 < slots inner columns ∧
      slots inner columns * (columns + gapColumns) ≤ inner + gapColumns := by
  have hone : 0 < (inner + gapColumns) / (columns + gapColumns) :=
    Nat.div_pos (Nat.add_le_add_right h gapColumns) (Nat.succ_pos columns)
  have hslots : slots inner columns = (inner + gapColumns) / (columns + gapColumns) :=
    Nat.max_eq_right hone
  rw [hslots]
  exact ⟨hone, Nat.div_mul_le_self _ _⟩

/-- The cells that are drawn of a tape if there is room for `slots` of them, as the first index and
the one after the last: all of them, or as many as there is room for, with the pointer in the middle
where that is possible. -/
def window (length pointer slots : Nat) : Nat × Nat :=
  if length ≤ slots then (0, length)
  else
    let start := min (pointer - slots / 2) (length - slots)
    (start, start + slots)

theorem window_eq (length pointer slots : Nat) :
    window length pointer slots =
      (windowStart length pointer slots, windowStart length pointer slots + min length slots) := by
  unfold window windowStart
  split
  · rename_i hall
    rw [Nat.zero_add, Nat.min_eq_left hall]
  · rename_i hmore
    rw [Nat.min_eq_right (Nat.le_of_not_le hmore)]

/-- The cells drawn are cells of the tape, and the current one is among them. -/
theorem windowStart_around {length pointer slots : Nat} (hpointer : pointer < length)
    (hslots : 0 < slots) :
    windowStart length pointer slots ≤ pointer ∧
      pointer < windowStart length pointer slots + min length slots ∧
      windowStart length pointer slots + min length slots ≤ length := by
  unfold windowStart
  split <;> omega

/-- What a layout has to be for the strip to be drawn whole. -/
structure Places (v : View) (l : Layout) : Prop where
  /-- The texts in a box have a column at least. -/
  columns_ge : 3 ≤ l.columns
  /-- As many cells are drawn as there are, or as fit. -/
  count_eq : l.count = min v.cells.length (slots l.inner l.columns)
  /-- At least one cell is drawn. -/
  count_pos : 0 < l.count
  /-- The current cell is not before the first one drawn. -/
  first_le : l.first ≤ v.pointer
  /-- The current cell is not after the last one drawn. -/
  pointer_lt : v.pointer < l.first + l.count
  /-- The cells drawn are cells of the tape. -/
  inside : l.first + l.count ≤ v.cells.length
  /-- The boxes, each with a gap after it, take no more than the inner width and one gap. -/
  boxes_fit : l.count * (l.columns + gapColumns) ≤ l.inner + gapColumns
  /-- They fit also behind the indent. -/
  fits : l.indent + l.count * (l.columns + gapColumns) ≤ l.inner + gapColumns

theorem layout_places {v : View} {areaWidth : Nat} (hpointer : v.pointer < v.cells.length)
    (hwidth : maxColumns ≤ areaWidth - 2) : Places v (layout v areaWidth) := by
  obtain ⟨hmin, hmax⟩ := boxColumns_bounds (areaWidth - 2) v.width
  obtain ⟨hslots, hboxes⟩ := slots_fit (Nat.le_trans hmax hwidth)
  obtain ⟨hfirst, hlast, hinside⟩ := windowStart_around hpointer hslots
  have hcount : min v.cells.length (slots (areaWidth - 2) (boxColumns (areaWidth - 2) v.width)) *
      (boxColumns (areaWidth - 2) v.width + gapColumns) ≤ areaWidth - 2 + gapColumns :=
    Nat.le_trans (Nat.mul_le_mul_right _ (Nat.min_le_right _ _)) hboxes
  have hpos : 0 < min v.cells.length
      (slots (areaWidth - 2) (boxColumns (areaWidth - 2) v.width)) := by omega
  refine ⟨Nat.le_trans (by decide) hmin, rfl, hpos, hfirst, hlast, hinside, hcount, ?_⟩
  simp only [layout]
  omega

/-! ## The boxes and the rows of the strip -/

theorem length_boxes {v : View} {l : Layout} (h : Places v l) : (boxes v l).length = l.count := by
  have hinside := h.inside
  simp only [boxes, List.length_map, List.length_zipIdx, List.length_take, List.length_drop]
  omega

/-- The boxes stand for the cells from the first one on, in their order. -/
theorem getElem?_boxes {v : View} {l : Layout} (h : Places v l) {k : Nat} (hk : k < l.count) :
    ∃ c, v.cells[l.first + k]? = some c ∧
      (boxes v l)[k]? = some (box l.columns c (l.first + k = v.pointer)) := by
  have hlt : l.first + k < v.cells.length := by
    have hinside := h.inside
    omega
  have hcell : v.cells[l.first + k]? = some v.cells[l.first + k] := List.getElem?_eq_getElem hlt
  refine ⟨v.cells[l.first + k], hcell, ?_⟩
  rw [boxes, List.getElem?_map, List.getElem?_zipIdx, List.getElem?_take, if_pos hk,
    List.getElem?_drop, hcell]
  rfl

/-- Every row of every box has as many characters as a box has columns. -/
theorem length_row_of_mem_boxes {v : View} {l : Layout} (h : Places v l) {b : Box}
    (hb : b ∈ boxes v l) {row : Box → List Segment} (hrow : row ∈ Box.rows) :
    (charactersOf (row b)).length = l.columns := by
  obtain ⟨⟨c, i⟩, -, rfl⟩ := List.mem_map.mp hb
  exact length_row_box h.columns_ge c _ hrow

theorem charactersOf_stripRow (l : Layout) (bs : List Box) (row : Box → List Segment) :
    charactersOf (stripRow l bs row).segments =
      List.replicate l.indent ' ' ++
        bs.flatMap fun b => charactersOf (row b) ++ List.replicate gapColumns ' ' := by
  have hcons : ∀ (s : Segment) (rest : List Segment),
      charactersOf (s :: rest) = s.text.toList ++ charactersOf rest := fun s rest => rfl
  rw [stripRow, hcons, toList_blanks, charactersOf_flatMap]
  simp only [charactersOf_append, charactersOf_singleton, toList_blanks]

/-- A row of the strip, block by block: all rows are equally long, and the box of cell number `k`
stands in the same columns in each of them. -/
theorem stripRow_blocks {v : View} {l : Layout} (h : Places v l) {row : Box → List Segment}
    (hrow : row ∈ Box.rows) :
    (charactersOf (stripRow l (boxes v l) row).segments).length =
        l.indent + l.count * (l.columns + gapColumns) ∧
      ∀ k b, (boxes v l)[k]? = some b →
        (charactersOf (row b)).length = l.columns ∧
        ((charactersOf (stripRow l (boxes v l) row).segments).drop
            (l.indent + k * (l.columns + gapColumns))).take l.columns = charactersOf (row b) := by
  have hblock : ∀ b ∈ boxes v l,
      (charactersOf (row b) ++ List.replicate gapColumns ' ').length = l.columns + gapColumns := by
    intro b hb
    rw [List.length_append, length_row_of_mem_boxes h hb hrow, List.length_replicate]
  rw [charactersOf_stripRow]
  constructor
  · rw [List.length_append, List.length_replicate, length_flatMap_of_uniform hblock,
      length_boxes h]
  · intro k b hk
    have hlength := length_row_of_mem_boxes h (List.mem_of_getElem? hk) hrow
    obtain ⟨rest, hrest⟩ := drop_flatMap_of_uniform hblock hk
    have hindent : ∀ tail : List Char,
        (List.replicate l.indent ' ' ++ tail).drop l.indent = tail := by
      intro tail
      rw [List.drop_append_of_le_length (by simp), List.drop_eq_nil_of_le (by simp),
        List.nil_append]
    refine ⟨hlength, ?_⟩
    rw [← List.drop_drop, hindent, hrest, List.append_assoc, ← hlength, List.take_left]

/-- In the columns of a cell its number and its character are seen, between two edges. -/
theorem stripRow_texts {v : View} {l : Layout} (h : Places v l) {k : Nat} {c : Int64}
    (hk : k < l.count) (hcell : v.cells[l.first + k]? = some c) :
    (∃ shown, Centered (toString c.toInt).toList (l.columns - 2) shown ∧
      ((charactersOf (stripRow l (boxes v l) Box.value).segments).drop
        (l.indent + k * (l.columns + gapColumns))).take l.columns = '│' :: (shown ++ ['│'])) ∧
    ∃ shown, Centered (glyphText c).toList (l.columns - 2) shown ∧
      ((charactersOf (stripRow l (boxes v l) Box.glyph).segments).drop
        (l.indent + k * (l.columns + gapColumns))).take l.columns = '│' :: (shown ++ ['│']) := by
  obtain ⟨c', hcell', hbox⟩ := getElem?_boxes h hk
  obtain rfl : c = c' := Option.some.inj (hcell.symm.trans hcell')
  have hvalue : Box.value ∈ Box.rows := by simp [Box.rows]
  have hglyph : Box.glyph ∈ Box.rows := by simp [Box.rows]
  rw [((stripRow_blocks h hvalue).2 k _ hbox).2, ((stripRow_blocks h hglyph).2 k _ hbox).2]
  exact texts_box h.columns_ge c _

/-- Of consecutive cells one has the arrow if the current cell is among them, and none if it is
not. -/
theorem count_arrow_zipIdx (pointer : Nat) {f : Int64 × Nat → List Char}
    (hf : ∀ c i, (f (c, i)).count '▲' = (decide (i = pointer)).toNat) (cells : List Int64) :
    ∀ first : Nat, ((cells.zipIdx first).flatMap f).count '▲' =
      (decide (first ≤ pointer ∧ pointer < first + cells.length)).toNat := by
  induction cells with
  | nil =>
      intro first
      have hnone : ¬(first ≤ pointer ∧ pointer < first + 0) := by omega
      rw [List.length_nil, decide_eq_false hnone]
      rfl
  | cons c rest ih =>
      intro first
      rw [List.zipIdx_cons, List.flatMap_cons, List.count_append, hf, ih, List.length_cons]
      by_cases hhere : first = pointer
      · have hlater : ¬(first + 1 ≤ pointer ∧ pointer < first + 1 + rest.length) := by omega
        have hall : first ≤ pointer ∧ pointer < first + (rest.length + 1) := by omega
        rw [decide_eq_true hhere, decide_eq_false hlater, decide_eq_true hall]
        rfl
      · have hsame : (first + 1 ≤ pointer ∧ pointer < first + 1 + rest.length) ↔
            (first ≤ pointer ∧ pointer < first + (rest.length + 1)) := by omega
        rw [decide_eq_false hhere, decide_eq_decide.mpr hsame, Bool.toNat_false, Nat.zero_add]

/-- There is exactly one arrow in the strip. -/
theorem count_arrow_stripRow {v : View} {l : Layout} (h : Places v l) :
    (charactersOf (stripRow l (boxes v l) Box.arrow).segments).count '▲' = 1 := by
  have hblank : ∀ n : Nat, (List.replicate n ' ').count '▲' = 0 := by
    intro n
    rw [List.count_replicate]
    rfl
  have hcolumns : 1 ≤ l.columns := Nat.le_trans (by decide) h.columns_ge
  have hcells : ((v.cells.drop l.first).take l.count).length = l.count := by
    have hinside := h.inside
    rw [List.length_take, List.length_drop]
    omega
  rw [charactersOf_stripRow, List.count_append, hblank, boxes, List.flatMap_map,
    count_arrow_zipIdx v.pointer, hcells, decide_eq_true ⟨h.first_le, h.pointer_lt⟩]
  · rfl
  · intro c i
    rw [List.count_append, count_arrow_box hcolumns, hblank]
    rfl

/-! ## What is drawn of an engine -/

/-- No subtraction that is made for the strip goes below zero. -/
structure NoUnderflow (v : View) (areaWidth : Nat) (l : Layout) : Prop where
  /-- The two columns of the border, from the width of the area. -/
  border : 2 ≤ areaWidth
  /-- The cells drawn, from all cells, where not all of them are drawn. -/
  window : ¬v.cells.length ≤ slots l.inner l.columns → slots l.inner l.columns ≤ v.cells.length
  /-- The gap after the last box, from the boxes with their gaps. -/
  gap : gapColumns ≤ l.count * (l.columns + gapColumns)
  /-- The boxes and the gaps between them, from the inner width. -/
  free : l.count * (l.columns + gapColumns) - gapColumns ≤ l.inner
  /-- The two edges of a box, from its columns. -/
  edges : 2 ≤ l.columns
  /-- The mark for what was cut, from the columns of a text. -/
  mark : 1 ≤ l.columns - 2
  /-- The characters that are kept, from a text that is too long. -/
  cut : ∀ text : String, l.columns - 2 < text.length → l.columns - 2 - 1 ≤ text.length

theorem noUnderflow_layout {v : View} {areaWidth : Nat} (hpointer : v.pointer < v.cells.length)
    (hwidth : maxColumns ≤ areaWidth - 2) : NoUnderflow v areaWidth (layout v areaWidth) := by
  have h := layout_places hpointer hwidth
  have hcolumns := h.columns_ge
  have hboxes := h.boxes_fit
  have hgap : gapColumns ≤
      (layout v areaWidth).count * ((layout v areaWidth).columns + gapColumns) :=
    Nat.le_trans (Nat.le_add_left gapColumns _) (Nat.le_mul_of_pos_left _ h.count_pos)
  have harea : 2 ≤ areaWidth := by
    simp only [maxColumns] at hwidth
    omega
  refine ⟨harea, fun hmore => Nat.le_of_not_le hmore, hgap, ?_, ?_, ?_, ?_⟩
  · omega
  · omega
  · omega
  · intro text hlong
    omega

/-- The tape pane shows the current cell, aligned and inside the pane.  Take the view of any engine
between two calls and an area of any height that leaves at least the columns of the widest box
inside its border.  The strip is in the middle of the height, the odd line below it.  The cells
drawn are consecutive cells of the tape, as many as there are or as fit, and the current one is among
them.  Indent, boxes and the gaps between them fit into the inner width.  The five rows are equally
long, and each box takes the same columns in all of them, the number of the cell and its character
centered between its edges.  There is one arrow, and it is within the columns of the current cell.
No subtraction goes below zero. -/
theorem strip_shows_current_cell (p : Program) (calls : List Call) (a : Area)
    (h : maxColumns ≤ a.width - 2) :
    let v := ((Engine.load p).after calls).view
    let l := layout v a.width
    let bs := boxes v l
    let text (row : Box → List Segment) : List Char := charactersOf (stripRow l bs row).segments
    let column (k : Nat) : Nat := l.indent + k * (l.columns + gapColumns)
    (panel v a).lines =
      List.replicate ((a.height - 2 - Box.rows.length) / 2) ⟨[], .left⟩ ++
        Box.rows.map (stripRow l bs) ∧
    (l.first, l.first + l.count) =
      window v.cells.length v.pointer (slots (a.width - 2) l.columns) ∧
    (0 < l.count ∧ l.count = min v.cells.length (slots (a.width - 2) l.columns) ∧
      l.first + l.count ≤ v.cells.length ∧ l.first ≤ v.pointer ∧ v.pointer < l.first + l.count) ∧
    (bs.length = l.count ∧ ∀ k, k < l.count → ∃ c, v.cells[l.first + k]? = some c ∧
      bs[k]? = some (box l.columns c (l.first + k = v.pointer))) ∧
    l.indent + (l.count * l.columns + (l.count - 1) * gapColumns) ≤ a.width - 2 ∧
    (∀ row ∈ Box.rows, (text row).length = column l.count ∧
      ∀ k b, bs[k]? = some b → (charactersOf (row b)).length = l.columns ∧
        ((text row).drop (column k)).take l.columns = charactersOf (row b)) ∧
    (∀ k c, k < l.count → v.cells[l.first + k]? = some c →
      (∃ shown, Centered (toString c.toInt).toList (l.columns - 2) shown ∧
        ((text Box.value).drop (column k)).take l.columns = '│' :: (shown ++ ['│'])) ∧
      ∃ shown, Centered (glyphText c).toList (l.columns - 2) shown ∧
        ((text Box.glyph).drop (column k)).take l.columns = '│' :: (shown ++ ['│'])) ∧
    ((text Box.arrow).count '▲' = 1 ∧
      '▲' ∈ ((text Box.arrow).drop (column (v.pointer - l.first))).take l.columns) ∧
    NoUnderflow v a.width l := by
  intro v l bs text column
  have hpointer : v.pointer < v.cells.length := by
    rw [show v.cells.length = _ from Tape.length_cells _]
    exact Tape.pointer_lt_length _
  have hplaces : Places v l := layout_places hpointer h
  have hfirst := hplaces.first_le
  have hlast := hplaces.pointer_lt
  refine ⟨rfl, (window_eq _ _ _).symm, ⟨hplaces.count_pos, hplaces.count_eq, hplaces.inside, hfirst, hlast⟩,
    ⟨length_boxes hplaces, fun k hk => getElem?_boxes hplaces hk⟩, ?_,
    fun row hrow => stripRow_blocks hplaces hrow, fun k c => stripRow_texts hplaces,
    ⟨count_arrow_stripRow hplaces, ?_⟩, noUnderflow_layout hpointer h⟩
  · have hfits : l.indent + l.count * (l.columns + 1) ≤ a.width - 2 + 1 := hplaces.fits
    have hpos := hplaces.count_pos
    rw [Nat.mul_add] at hfits
    simp only [gapColumns]
    omega
  · -- The columns of the current cell hold the arrow row of its box, and that has an arrow.
    obtain ⟨c, -, hbox⟩ := getElem?_boxes hplaces
      (show v.pointer - l.first < l.count by omega)
    have harrow : Box.arrow ∈ Box.rows := by simp [Box.rows]
    have hslice := ((stripRow_blocks hplaces harrow).2 _ _ hbox).2
    have hcurrent : decide (l.first + (v.pointer - l.first) = v.pointer) = true :=
      decide_eq_true (by omega)
    have hcount := count_arrow_box (Nat.le_trans (by decide) hplaces.columns_ge) c true
    rw [hcurrent] at hslice
    rw [hslice, ← List.count_pos_iff, hcount]
    decide

/-- After `<<` the tape has three cells, of which two fit into eleven columns.  The current cell is
the first one; it is drawn, and the arrow is under it.  The zero of the second one stands in the box
beside it. -/
theorem strip_shows_current_cell_of_narrow_pane :
    let v := ((Engine.load (.ofList [.left, .left])).after (List.replicate 117 .tick)).view
    let l := layout v 13
    v.pointer = 0 ∧ v.cells.length = 3 ∧ l.count = 2 ∧ l.first ≤ v.pointer ∧
      v.pointer < l.first + l.count ∧
      (charactersOf (stripRow l (boxes v l) Box.arrow).segments).count '▲' = 1 ∧
      (l.first, l.first + l.count) = window 3 0 2 ∧
      ∃ shown, Centered (toString (0 : Int64).toInt).toList (l.columns - 2) shown ∧
        ((charactersOf (stripRow l (boxes v l) Box.value).segments).drop
          (l.indent + 1 * (l.columns + gapColumns))).take l.columns = '│' :: (shown ++ ['│']) := by
  intro v l
  obtain ⟨-, hwindow, ⟨-, -, -, hfirst, hlast⟩, -, -, -, htexts, ⟨harrow, -⟩, -⟩ :=
    strip_shows_current_cell (.ofList [.left, .left]) (List.replicate 117 .tick) ⟨0, 0, 13, 7⟩
      (by decide)
  obtain ⟨hpointer, hcells, hcount, hslots, hsecond⟩ :
      v.pointer = 0 ∧ v.cells.length = 3 ∧ l.count = 2 ∧ slots 11 l.columns = 2 ∧
        v.cells[l.first + 1]? = some 0 := by decide +kernel
  refine ⟨hpointer, hcells, hcount, hfirst, hlast, harrow, ?_, ?_⟩
  · rw [hwindow, hcells, hpointer]
    exact congrArg (window 3 0) hslots
  · exact (htexts 1 0 (hcount ▸ Nat.one_lt_two) hsecond).1

end TapePane

end TapeConsole
