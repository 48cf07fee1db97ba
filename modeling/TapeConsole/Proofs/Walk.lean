import Mathlib.Data.Int.Interval
import Mathlib.Order.Bounds.Defs
import TapeConsole.Proofs.EndlessTape
set_option autoImplicit false

/-!
# Walks on a tape

The same operations are done on a tape that grows on demand and on an endless one.
After every walk the cells are the endless tape between the lowest and the highest
position visited, though a move past the left end has renamed all of them.

Which positions were visited is not read off the two bounds that an endless tape
keeps.  `EndlessTape.visited` lists the positions of the head one by one, and
`EndlessTape.mem_visited_iff` says that they are the positions between the bounds:
no position is skipped, because the head moves by one.
-/

namespace TapeConsole

/-- An operation on a tape. -/
inductive TapeOp where
  | right
  | left
  | increment
  | decrement
  | write (v : Int64)
  deriving DecidableEq, Repr, Inhabited

/-- Do one operation on a tape. -/
def Tape.apply (t : Tape) : TapeOp → Tape
  | .right => t.right
  | .left => t.left
  | .increment => t.increment
  | .decrement => t.decrement
  | .write v => t.write v

/-- Do operations on a tape, one after the other. -/
def Tape.run (t : Tape) : List TapeOp → Tape
  | [] => t
  | op :: rest => (t.apply op).run rest

namespace EndlessTape

/-- Do one operation on an endless tape. -/
def apply (l : EndlessTape) : TapeOp → EndlessTape
  | .right => l.right
  | .left => l.left
  | .increment => l.increment
  | .decrement => l.decrement
  | .write v => l.write v

/-- Do operations on an endless tape, one after the other. -/
def run (l : EndlessTape) : List TapeOp → EndlessTape
  | [] => l
  | op :: rest => (l.apply op).run rest

/-- The positions of the head, before the first operation and after each of them. -/
def visited (l : EndlessTape) : List TapeOp → List Int
  | [] => [l.head]
  | op :: rest => l.head :: (l.apply op).visited rest

/-! ## The positions visited -/

theorem head_mem_visited (l : EndlessTape) (ops : List TapeOp) : l.head ∈ l.visited ops := by
  cases ops with
  | nil => exact List.mem_singleton_self _
  | cons op rest => exact List.mem_cons_self

/-- The position is between the lowest and the highest one visited. -/
def Covers (l : EndlessTape) (i : Int) : Prop := l.low ≤ i ∧ i ≤ l.high

/-- One operation covers at most one position more, that of the head. -/
theorem covers_apply_iff {l : EndlessTape} (hhead : l.Covers l.head) (op : TapeOp) (i : Int) :
    (l.apply op).Covers i ↔ l.Covers i ∨ i = (l.apply op).head := by
  unfold Covers at hhead ⊢
  cases op with
  | right =>
      simp only [apply, right]
      omega
  | left =>
      simp only [apply, left]
      omega
  | increment =>
      simp only [apply, increment, write]
      omega
  | decrement =>
      simp only [apply, decrement, write]
      omega
  | write v =>
      simp only [apply, write]
      omega

/-- What is covered after a walk was covered before, or has been visited. -/
theorem covers_run_iff (ops : List TapeOp) :
    ∀ {l : EndlessTape}, l.Covers l.head → ∀ i : Int,
      (l.run ops).Covers i ↔ l.Covers i ∨ i ∈ l.visited ops := by
  induction ops with
  | nil =>
      intro l hhead i
      rw [visited, List.mem_singleton]
      constructor
      · exact .inl
      · rintro (h | rfl)
        · exact h
        · exact hhead
  | cons op rest ih =>
      intro l hhead i
      have hnext : (l.apply op).Covers (l.apply op).head :=
        (covers_apply_iff hhead op _).mpr (.inr rfl)
      rw [run, visited, List.mem_cons, ih hnext i, covers_apply_iff hhead op i]
      constructor
      · rintro ((h | rfl) | h)
        · exact .inl h
        · exact .inr (.inr (head_mem_visited _ rest))
        · exact .inr (.inr h)
      · rintro (h | rfl | h)
        · exact .inl (.inl h)
        · exact .inl (.inl hhead)
        · exact .inr h

/-- From a blank tape exactly the positions between the two bounds are visited. -/
theorem mem_visited_iff {ops : List TapeOp} {i : Int} :
    i ∈ blank.visited ops ↔ (blank.run ops).Covers i := by
  have hstart : ∀ i : Int, blank.Covers i ↔ i = blank.head := by
    intro i
    unfold Covers
    exact Int.le_antisymm_iff.symm.trans eq_comm
  rw [covers_run_iff ops ((hstart _).mpr rfl), hstart]
  constructor
  · exact .inr
  · rintro (rfl | h)
    · exact head_mem_visited _ ops
    · exact h

/-- Without repetitions there are as many positions visited as from one bound to the other. -/
theorem card_visited (ops : List TapeOp) :
    (blank.visited ops).toFinset.card = ((blank.run ops).high + 1 - (blank.run ops).low).toNat := by
  have hfinset : (blank.visited ops).toFinset =
      Finset.Icc (blank.run ops).low (blank.run ops).high := by
    ext i
    rw [List.mem_toFinset, Finset.mem_Icc, mem_visited_iff]
    rfl
  rw [hfinset, Int.card_Icc]

end EndlessTape

/-! ## The two tapes side by side -/

namespace Tape

/-- Each operation keeps the two tapes together. -/
theorem Shows.apply {t : Tape} {l : EndlessTape} (h : t.Shows l) (op : TapeOp) :
    (t.apply op).Shows (l.apply op) := by
  cases op with
  | right => exact h.right
  | left => exact h.left
  | increment => exact h.increment
  | decrement => exact h.decrement
  | write v => exact h.write v

/-- A walk keeps the two tapes together. -/
theorem Shows.run (ops : List TapeOp) :
    ∀ {t : Tape} {l : EndlessTape}, t.Shows l → (t.run ops).Shows (l.run ops) := by
  induction ops with
  | nil => intro t l h; exact h
  | cons op rest ih => intro t l h; exact ih (h.apply op)

/-- Each cell has the value at its position. -/
theorem Shows.getElem?_cells {t : Tape} {l : EndlessTape} (h : t.Shows l) {k : Nat}
    (hk : k < t.length) : t.cells[k]? = some (l.value (l.low + k)) := by
  have hlength := h.length_eq
  have hlt : k < (l.high - l.low + 1).toNat := by omega
  rw [h.cells_eq, EndlessTape.window, List.getElem?_map, List.getElem?_range hlt]
  rfl

/-- A move to the right adds a zero cell at the end if the head is at its highest position, and
leaves the cells as they are otherwise. -/
theorem Shows.cells_right {t : Tape} {l : EndlessTape} (h : t.Shows l) :
    t.right.cells = t.cells ++ if l.head = l.high then [0] else [] := by
  have hlength := h.length_eq
  have hpointer := h.pointer_eq
  simp only [length, pointer] at hlength hpointer
  by_cases hend : t.after = []
  · rw [hend, List.length_nil] at hlength
    rw [cells_right_of_end hend, if_pos (by omega)]
  · have hpos : 0 < t.after.length := List.length_pos_iff.mpr hend
    rw [cells_right_of_inside hend, if_neg (by omega), List.append_nil]

/-- A move to the left adds a zero cell at the start if the head is at its lowest position, and
leaves the cells as they are otherwise. -/
theorem Shows.cells_left {t : Tape} {l : EndlessTape} (h : t.Shows l) :
    t.left.cells = (if l.head = l.low then [0] else []) ++ t.cells := by
  have hpointer := h.pointer_eq
  simp only [pointer] at hpointer
  by_cases hend : t.before = []
  · rw [hend, List.length_nil] at hpointer
    rw [cells_left_of_end hend, if_pos (by omega), List.singleton_append]
  · have hpos : 0 < t.before.length := List.length_pos_iff.mpr hend
    rw [cells_left_of_inside hend, if_neg (by omega), List.nil_append]

end Tape

/-- The growable tape is the visited part of the endless one.  After every walk from a blank tape
the cells are the values from the lowest to the highest position visited, the pointer is at the
head, and nothing was written elsewhere.  A move adds at most a zero cell at one end, so no cell is
lost or doubled, and there are as many cells as positions visited. -/
theorem cells_run_eq_visited_part (ops : List TapeOp) :
    let t := Tape.blank.run ops
    let l := EndlessTape.blank.run ops
    let visited := EndlessTape.blank.visited ops
    IsLeast {i | i ∈ visited} l.low ∧ IsGreatest {i | i ∈ visited} l.high ∧
    t.cells.length = t.length ∧ (t.length : Int) = l.high - l.low + 1 ∧
    (t.pointer : Int) = l.head - l.low ∧
    (∀ k : Nat, k < t.length → t.cells[k]? = some (l.value (l.low + k))) ∧
    (∀ i : Int, i < l.low ∨ l.high < i → l.value i = 0) ∧
    t.read = l.value l.head ∧
    t.right.cells = t.cells ++ (if l.head = l.high then [0] else []) ∧
    t.left.cells = (if l.head = l.low then [0] else []) ++ t.cells ∧
    t.length = visited.toFinset.card := by
  intro t l visited
  have hshows : t.Shows l := Tape.shows_blank.run ops
  have hlow := hshows.low_le
  have hhigh := hshows.head_le
  have hmem : ∀ i : Int, i ∈ visited ↔ l.low ≤ i ∧ i ≤ l.high := fun i =>
    EndlessTape.mem_visited_iff
  refine ⟨⟨?_, ?_⟩, ⟨?_, ?_⟩, t.length_cells, hshows.length_eq, hshows.pointer_eq,
    fun k hk => hshows.getElem?_cells hk, hshows.outside, hshows.read_eq, hshows.cells_right,
    hshows.cells_left, ?_⟩
  · exact (hmem l.low).mpr ⟨Int.le_refl _, by omega⟩
  · intro i hi
    exact ((hmem i).mp hi).1
  · exact (hmem l.high).mpr ⟨by omega, Int.le_refl _⟩
  · intro i hi
    exact ((hmem i).mp hi).2
  · have hlength := hshows.length_eq
    have hcard : visited.toFinset.card = (l.high + 1 - l.low).toNat := EndlessTape.card_visited ops
    omega

/-- A value is written and the head moves to the left of it: its cell is now the second. -/
theorem cells_run_eq_visited_part_of_rebase :
    let t := Tape.blank.run [.write 7, .left]
    let l := EndlessTape.blank.run [.write 7, .left]
    t.cells[1]? = some (l.value 0) ∧ l.value 0 = 7 ∧ l.value 1 = 0 := by
  intro t l
  obtain ⟨-, -, -, -, -, hcells, houtside, -⟩ := cells_run_eq_visited_part [.write 7, .left]
  exact ⟨hcells 1 (by decide), rfl, houtside 1 (.inr (by decide))⟩

end TapeConsole
