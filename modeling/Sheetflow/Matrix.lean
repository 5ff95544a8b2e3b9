import Sheetflow.Cell

/-!
# Matrices of cells

A worksheet's contents are a list of rows, and rows may have different lengths. Reading past the end
of a row gives an empty cell. The normal form of a matrix, `Matrix.normalize`, is what writing and
reading it back as text leaves of it.
-/

namespace Sheetflow

abbrev Row := List Cell

abbrev Matrix := List Row

/-- Without the longest tail whose members satisfy `p`. -/
def dropTail {α : Type} (p : α → Bool) (xs : List α) : List α := (xs.reverse.dropWhile p).reverse

/-- The cell at an index, empty past the end. -/
def Row.cell (row : Row) (i : Nat) : Cell := row[i]?.getD .empty

/-- Without the empty cells and empty texts at the end. -/
def Row.trim (row : Row) : Row := dropTail Cell.isVoid row

/-- Filled up with empty cells to at least `width` cells. -/
def Row.pad (width : Nat) (row : Row) : Row := row ++ List.replicate (width - row.length) Cell.empty

namespace Matrix

/-- The length of the longest row. -/
def width (m : Matrix) : Nat := m.foldl (fun w row => max w row.length) 0

/-- The length of the first row. -/
def headerWidth (m : Matrix) : Nat := (m.head?.getD []).length

/-- Without the empty rows at the end. -/
def trim (m : Matrix) : Matrix := dropTail List.isEmpty m

/-- Every cell as its text, an empty text as an empty cell. -/
def textCells (m : Matrix) : Matrix :=
  m.map fun row => row.map fun c => if c.toText = "" then .empty else .text c.toText

/-- The normal form: cells as texts, rows and matrix without empty ends. -/
def normalize (m : Matrix) : Matrix := trim (m.textCells.map Row.trim)

end Matrix

@[simp] theorem dropTail_nil {α : Type} (p : α → Bool) : dropTail p [] = [] := rfl

theorem dropTail_append_singleton {α : Type} (p : α → Bool) (xs : List α) (x : α) :
    dropTail p (xs ++ [x]) = if p x then dropTail p xs else xs ++ [x] := by
  by_cases h : p x <;> simp [dropTail, h]

theorem Row.length_pad (width : Nat) (row : Row) : (row.pad width).length = max row.length width := by
  simp [Row.pad]; omega

theorem Row.cell_pad (width : Nat) (row : Row) (i : Nat) : (row.pad width).cell i = row.cell i := by
  simp only [Row.cell, Row.pad, List.getElem?_append, List.getElem?_replicate]
  split
  · rfl
  · rename_i h; rw [List.getElem?_eq_none (by omega)]; split <;> rfl

end Sheetflow
