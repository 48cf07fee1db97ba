import Mathlib.Logic.Function.Basic
import TapeConsole.Tape
set_option autoImplicit false

/-!
# The tape without ends

An `EndlessTape` has a cell for every integer, all zero at first, and a head
that starts at zero.  It keeps the lowest and the highest position the head has
been at.

A tape grows on demand and counts its cells from the left end, so a move past
that end renames every cell.  `Tape.Shows` says that it holds the visited part of
an endless tape all the same, and each operation on a tape follows the same
operation on the endless one.
-/

namespace TapeConsole

/-- A tape with a cell for every integer. -/
structure EndlessTape where
  /-- The values of the cells. -/
  value : Int → Int64 := fun _ => 0
  /-- The position of the head. -/
  head : Int := 0
  /-- The lowest position visited. -/
  low : Int := 0
  /-- The highest position visited. -/
  high : Int := 0

namespace EndlessTape

/-- The tape a run starts from: all cells are zero. -/
def blank : EndlessTape := {}

/-- The value under the head. -/
def read (l : EndlessTape) : Int64 := l.value l.head

/-- Replace the value under the head. -/
def write (l : EndlessTape) (v : Int64) : EndlessTape :=
  { l with value := Function.update l.value l.head v }

/-- Add one to the value under the head. -/
def increment (l : EndlessTape) : EndlessTape := l.write (l.read + 1)

/-- Subtract one from the value under the head. -/
def decrement (l : EndlessTape) : EndlessTape := l.write (l.read - 1)

/-- Move the head to the right. -/
def right (l : EndlessTape) : EndlessTape :=
  { l with head := l.head + 1, high := max l.high (l.head + 1) }

/-- Move the head to the left. -/
def left (l : EndlessTape) : EndlessTape :=
  { l with head := l.head - 1, low := min l.low (l.head - 1) }

/-- The values at the visited positions, from the lowest to the highest. -/
def window (l : EndlessTape) : List Int64 :=
  (List.range (l.high - l.low + 1).toNat).map fun k : Nat => l.value (l.low + k)

theorem read_write (l : EndlessTape) (v : Int64) : (l.write v).read = v := by
  unfold read write
  exact Function.update_self ..

/-- Of two values written to the same cell the second one stays. -/
theorem write_write (l : EndlessTape) (v w : Int64) : (l.write v).write w = l.write w := by
  unfold write
  rw [Function.update_idem]

theorem length_window (l : EndlessTape) : l.window.length = (l.high - l.low + 1).toNat := by
  simp [window]

end EndlessTape

/-! ## The row of cells after a move -/

namespace Tape

theorem cells_right_of_end {t : Tape} (h : t.after = []) : t.right.cells = t.cells ++ [0] := by
  simp [cells_eq, right, h]

theorem cells_right_of_inside {t : Tape} (h : t.after ≠ []) : t.right.cells = t.cells := by
  obtain ⟨c, rest, hafter⟩ := List.exists_cons_of_ne_nil h
  simp [cells_eq, right, hafter]

theorem cells_left_of_end {t : Tape} (h : t.before = []) : t.left.cells = 0 :: t.cells := by
  simp [cells_eq, left, h]

theorem cells_left_of_inside {t : Tape} (h : t.before ≠ []) : t.left.cells = t.cells := by
  obtain ⟨c, rest, hbefore⟩ := List.exists_cons_of_ne_nil h
  simp [cells_eq, left, hbefore]

theorem pointer_right (t : Tape) : t.right.pointer = t.pointer + 1 := by
  unfold right
  split <;> rfl

theorem pointer_left (t : Tape) : t.left.pointer = t.pointer - 1 := by
  unfold left
  split
  · rename_i hbefore
    simp [pointer, hbefore]
  · rename_i c rest hbefore
    simp [pointer, hbefore]

/-! ## A tape shows the visited part of an endless one -/

/-- The cells are the visited part of the endless tape, and the pointer is at its head. -/
structure Shows (t : Tape) (l : EndlessTape) : Prop where
  /-- The cells are the visited positions in order. -/
  cells_eq : t.cells = l.window
  /-- The pointer counts from the lowest position. -/
  pointer_eq : (t.pointer : Int) = l.head - l.low
  /-- The head is at a visited position. -/
  head_le : l.head ≤ l.high
  /-- Nothing has been written elsewhere. -/
  outside : ∀ i : Int, i < l.low ∨ l.high < i → l.value i = 0

theorem shows_blank : blank.Shows .blank where
  cells_eq := rfl
  pointer_eq := rfl
  head_le := Int.le_refl 0
  outside := by
    intro i _
    rfl

theorem Shows.low_le {t : Tape} {l : EndlessTape} (h : t.Shows l) : l.low ≤ l.head := by
  have hpointer := h.pointer_eq
  omega

/-- The number of cells is the number of positions visited. -/
theorem Shows.length_eq {t : Tape} {l : EndlessTape} (h : t.Shows l) :
    (t.length : Int) = l.high - l.low + 1 := by
  have hlength : t.length = (l.high - l.low + 1).toNat := by
    rw [← length_cells, h.cells_eq, EndlessTape.length_window]
  have hlow := h.low_le
  have hhigh := h.head_le
  omega

theorem Shows.read_eq {t : Tape} {l : EndlessTape} (h : t.Shows l) : t.read = l.read := by
  have hlt : t.pointer < (l.high - l.low + 1).toNat := by
    have hpointer := h.pointer_eq
    have hhigh := h.head_le
    omega
  have hget : t.cells[t.pointer]? = some (l.value (l.low + t.pointer)) := by
    rw [h.cells_eq, EndlessTape.window, List.getElem?_map, List.getElem?_range hlt]
    rfl
  have hhead : l.low + (t.pointer : Int) = l.head := by
    have hpointer := h.pointer_eq
    omega
  rw [getElem?_pointer_cells, hhead] at hget
  exact Option.some.inj hget

theorem Shows.write {t : Tape} {l : EndlessTape} (h : t.Shows l) (v : Int64) :
    (t.write v).Shows (l.write v) where
  cells_eq := by
    rw [cells_write, h.cells_eq]
    apply List.ext_getElem?
    intro k
    have hpointer := h.pointer_eq
    rw [List.getElem?_set, EndlessTape.window, EndlessTape.window]
    simp only [EndlessTape.write, List.length_map, List.length_range, List.getElem?_map]
    by_cases hk : k < (l.high - l.low + 1).toNat
    · rw [List.getElem?_range hk]
      by_cases hat : t.pointer = k
      · have hhead : l.low + (k : Int) = l.head := by omega
        simp [hat, hk, hhead]
      · have hhead : l.low + (k : Int) ≠ l.head := by omega
        simp [hat, Function.update_of_ne hhead]
    · rw [List.getElem?_eq_none (by simpa using hk)]
      by_cases hat : t.pointer = k
      · simp [hat, hk]
      · simp [hat]
  pointer_eq := h.pointer_eq
  head_le := h.head_le
  outside := by
    intro i hi
    simp only [EndlessTape.write] at hi ⊢
    have hne : i ≠ l.head := by
      have hlow := h.low_le
      have hhigh := h.head_le
      omega
    rw [Function.update_of_ne hne]
    exact h.outside i hi

theorem Shows.increment {t : Tape} {l : EndlessTape} (h : t.Shows l) :
    t.increment.Shows l.increment := by
  unfold Tape.increment EndlessTape.increment
  rw [h.read_eq]
  exact h.write _

theorem Shows.decrement {t : Tape} {l : EndlessTape} (h : t.Shows l) :
    t.decrement.Shows l.decrement := by
  unfold Tape.decrement EndlessTape.decrement
  rw [h.read_eq]
  exact h.write _

/-- A move to the right adds a cell exactly if the head was at its highest position. -/
theorem Shows.right {t : Tape} {l : EndlessTape} (h : t.Shows l) : t.right.Shows l.right := by
  have hpointer := h.pointer_eq
  have hlow := h.low_le
  have hhigh := h.head_le
  refine ⟨?_, ?_, ?_, ?_⟩
  · have hlength := h.length_eq
    simp only [length, pointer] at hlength hpointer
    by_cases hend : t.after = []
    · rw [hend, List.length_nil] at hlength
      have hmax : max l.high (l.head + 1) = l.high + 1 := by omega
      have hcount : (l.high + 1 - l.low + 1).toNat = (l.high - l.low + 1).toNat + 1 := by omega
      have hnew : l.low + ((l.high - l.low + 1).toNat : Int) = l.high + 1 := by omega
      have hzero : l.value (l.high + 1) = 0 := h.outside _ (.inr (by omega))
      rw [cells_right_of_end hend, h.cells_eq]
      simp only [EndlessTape.window, EndlessTape.right, hmax, hcount, List.range_succ,
        List.map_append, List.map_cons, List.map_nil, hnew, hzero]
    · have hpos : 0 < t.after.length := List.length_pos_iff.mpr hend
      have hmax : max l.high (l.head + 1) = l.high := by omega
      rw [cells_right_of_inside hend, h.cells_eq]
      simp only [EndlessTape.window, EndlessTape.right, hmax]
  · rw [pointer_right]
    simp only [EndlessTape.right]
    omega
  · simp only [EndlessTape.right]
    omega
  · intro i hi
    simp only [EndlessTape.right] at hi ⊢
    exact h.outside i (by omega)

/-- A move to the left adds a cell exactly if the head was at its lowest position.  All other
cells are then counted from one place further to the left. -/
theorem Shows.left {t : Tape} {l : EndlessTape} (h : t.Shows l) : t.left.Shows l.left := by
  have hpointer := h.pointer_eq
  have hlow := h.low_le
  have hhigh := h.head_le
  refine ⟨?_, ?_, ?_, ?_⟩
  · simp only [pointer] at hpointer
    by_cases hend : t.before = []
    · rw [hend, List.length_nil] at hpointer
      have hmin : min l.low (l.head - 1) = l.low - 1 := by omega
      have hcount : (l.high - (l.low - 1) + 1).toNat = (l.high - l.low + 1).toNat + 1 := by omega
      have hzero : l.value (l.low - 1 + ((0 : Nat) : Int)) = 0 := h.outside _ (.inl (by omega))
      have hshift : ((fun k : Nat => l.value (l.low - 1 + (k : Int))) ∘ Nat.succ) =
          fun k : Nat => l.value (l.low + (k : Int)) := by
        funext k
        simp only [Function.comp_apply]
        congr 1
        omega
      rw [cells_left_of_end hend, h.cells_eq]
      simp only [EndlessTape.window, EndlessTape.left, hmin, hcount, List.range_succ_eq_map,
        List.map_cons, List.map_map, hzero, hshift]
    · have hpos : 0 < t.before.length := List.length_pos_iff.mpr hend
      have hmin : min l.low (l.head - 1) = l.low := by omega
      rw [cells_left_of_inside hend, h.cells_eq]
      simp only [EndlessTape.window, EndlessTape.left, hmin]
  · rw [pointer_left]
    simp only [EndlessTape.left]
    omega
  · simp only [EndlessTape.left]
    omega
  · intro i hi
    simp only [EndlessTape.left] at hi ⊢
    exact h.outside i (by omega)

end Tape

end TapeConsole
