import Sheetflow.Matrix

/-!
# Widths and cells

The width of a matrix is the length of its longest row: no row is longer, and
some row is as long unless there is none.  Its cells are read by row and column,
and past the end of a row they are empty.  Its header is its first row, filled up to
the width, so that every column has a header cell.
-/

namespace Sheetflow

namespace Row

theorem cell_append_left {row more : Row} {i : Nat} (h : i < row.length) :
    cell (row ++ more) i = row.cell i := by
  rw [cell, List.getElem?_append_left h, ← cell]

theorem cell_append_self (row : Row) (c : Cell) : cell (row ++ [c]) row.length = c := by
  rw [cell, List.getElem?_append_right (Nat.le_refl _), Nat.sub_self]
  rfl

theorem cell_mem {row : Row} {i : Nat} (h : i < row.length) : row.cell i ∈ row := by
  rw [cell, List.getElem?_eq_getElem h]
  exact List.getElem_mem h

theorem cell_set_self {row : Row} {i : Nat} (h : i < row.length) (c : Cell) :
    cell (row.set i c) i = c := by
  rw [cell, List.getElem?_set_self h]
  rfl

theorem cell_set_of_ne (row : Row) {i k : Nat} (h : i ≠ k) (c : Cell) :
    cell (row.set i c) k = row.cell k := by
  rw [cell, List.getElem?_set_ne h, ← cell]

theorem ext_cell {row other : Row} (hlen : row.length = other.length)
    (h : ∀ i < row.length, row.cell i = other.cell i) : row = other := by
  refine List.ext_getElem hlen fun i hi hi' => ?_
  have hcell := h i hi
  rwa [cell, cell, List.getElem?_eq_getElem hi, List.getElem?_eq_getElem hi'] at hcell

theorem cell_replicate_empty (n i : Nat) : cell (List.replicate n .empty) i = .empty := by
  rw [cell, List.getElem?_replicate]
  split <;> rfl

end Row

namespace Matrix

theorem foldl_max_length (m : Matrix) (w : Nat) :
    m.foldl (fun w row => max w row.length) w = max w (width m) := by
  induction m generalizing w with
  | nil => exact (Nat.max_zero w).symm
  | cons row m ih =>
    rw [width, List.foldl_cons, List.foldl_cons, ih, ih (max 0 row.length)]
    omega

theorem width_cons (row : Row) (m : Matrix) : width (row :: m) = max row.length (width m) := by
  rw [width, List.foldl_cons, foldl_max_length, Nat.zero_max]

theorem length_le_width {m : Matrix} {row : Row} (h : row ∈ m) : row.length ≤ width m := by
  induction m with
  | nil => cases h
  | cons first m ih =>
    rw [width_cons]
    rcases List.mem_cons.mp h with rfl | h
    · exact Nat.le_max_left _ _
    · exact Nat.le_trans (ih h) (Nat.le_max_right _ _)

theorem width_le_iff {m : Matrix} {n : Nat} : width m ≤ n ↔ ∀ row ∈ m, row.length ≤ n := by
  induction m with
  | nil => exact ⟨fun _ => nofun, fun _ => Nat.zero_le n⟩
  | cons row m ih => rw [width_cons, Nat.max_le, ih, List.forall_mem_cons]

theorem exists_length_eq_width {m : Matrix} (h : m ≠ []) : ∃ row ∈ m, row.length = width m := by
  induction m with
  | nil => exact absurd rfl h
  | cons row m ih =>
    rw [width_cons]
    by_cases hw : width m ≤ row.length
    · exact ⟨row, List.mem_cons_self, (Nat.max_eq_left hw).symm⟩
    · have hm : m ≠ [] := by
        rintro rfl
        exact hw (Nat.zero_le _)
      obtain ⟨other, hmem, he⟩ := ih hm
      exact ⟨other, List.mem_cons_of_mem _ hmem, by omega⟩

/-- The cell in a row and a column, empty where there is none. -/
def cell (m : Matrix) (i col : Nat) : Cell := Row.cell (m[i]?.getD []) col

/-- Matrices are equal if their rows have the same lengths and their cells are the same. -/
theorem ext_cell {m other : Matrix} (hlen : m.map List.length = other.map List.length)
    (h : ∀ i j, m.cell i j = other.cell i j) : m = other := by
  refine List.ext_getElem (by simpa using congrArg List.length hlen) fun i hi hi' => ?_
  have hrow : m[i].length = other[i].length := by simpa [hi, hi'] using congrArg (·[i]?) hlen
  refine Row.ext_cell hrow fun j _ => ?_
  simpa [cell, hi, hi'] using h i j

/-- The width is told by the lengths of the rows. -/
theorem width_congr {m other : Matrix} (h : m.map List.length = other.map List.length) :
    m.width = other.width := by
  rw [width, width, ← List.foldl_map, h, List.foldl_map]

/-- The header cells of the columns of a matrix. -/
def header (m : Matrix) : Row := Row.pad m.width (m.head?.getD [])

theorem length_header (m : Matrix) : m.header.length = m.width := by
  rw [header, Row.length_pad]
  cases m with
  | nil => rfl
  | cons row m => exact Nat.max_eq_right (length_le_width List.mem_cons_self)

end Matrix

end Sheetflow
