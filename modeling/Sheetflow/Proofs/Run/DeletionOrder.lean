import Sheetflow.Proofs.Column.Place
import Sheetflow.Proofs.Run.ColumnDeletion
import Sheetflow.Proofs.Run.Log
import Sheetflow.Proofs.Run.RowDeletion

/-!
# Rows and columns deleted in either order

Without some of its rows a matrix may be narrower, and so may lose columns that are to be deleted.  But a
column that no row has is nowhere to be deleted: a numeral stands for a column whatever the width is, and
in a row it deletes the cell there, if there is one (`RunState.map_without_namedColumns`).  Rows on the other
hand are told by their number only, whatever cells they have (`Matrix.withoutRows_map`).  So both orders
leave the rows with other numbers, each without the cells in those columns.
-/

namespace Sheetflow

/-- The rows with other numbers, the first row having number one. -/
def Matrix.withoutRows (numbers : List Nat) (m : Matrix) : Matrix :=
  ((m.zipIdx 1).filter fun numbered => decide (numbered.2 ∉ numbers)).map (·.1)

/-- Rows are deleted alike whatever was done to each of them. -/
theorem Matrix.withoutRows_map (numbers : List Nat) (f : Row → Row) (m : Matrix) :
    Matrix.withoutRows numbers (m.map f) = (m.withoutRows numbers).map f := by
  rw [withoutRows, withoutRows, List.zipIdx_map, List.filter_map, List.map_map, List.map_map]
  rfl

/-- What is deleted from a row are cells that it has. -/
theorem Row.without_congr {columns columns' : Finset Nat} {row : Row}
    (h : ∀ i < row.length, i ∈ columns ↔ i ∈ columns') : row.without columns = row.without columns' := by
  refine congrArg (List.map Prod.fst) (List.filter_congr fun numbered hmem => ?_)
  exact decide_eq_decide.mpr (not_congr (h numbered.2 (List.snd_lt_of_mem_zipIdx hmem)))

/-- The columns that numerals name. -/
def numeralColumns (names : List String) : Finset Nat :=
  (names.map fun name => Text.numeralValue (Text.trim name).toList).toFinset

section
variable {s : RunState} {names : List String} {o : Outcome}

/-- Of the columns that numerals name the active worksheet has those within its width. -/
theorem RunState.mem_namedColumns_of_numerals
    (h : ∀ name ∈ names, Column.isNumeral (Text.trim name) = true) {i : Nat} :
    i ∈ s.namedColumns names ↔ i < s.width ∧ i ∈ numeralColumns names := by
  have hcolumn (name : String) (hname : name ∈ names) : s.column? name = some i ↔
      i < s.width ∧ Text.numeralValue (Text.trim name).toList = i :=
    ColumnRef.column?_eq_some_iff_of_place? (Column.place?_of_isNumeral (h name hname) s.width)
  simp only [namedColumns, numeralColumns, List.mem_toFinset, List.mem_filterMap, List.mem_map]
  constructor
  · rintro ⟨name, hname, he⟩
    obtain ⟨hi, hvalue⟩ := (hcolumn name hname).mp he
    exact ⟨hi, name, hname, hvalue⟩
  · rintro ⟨hi, name, hname, hvalue⟩
    exact ⟨name, hname, (hcolumn name hname).mpr ⟨hi, hvalue⟩⟩

/-- In every row numerals delete the cells that they name, whatever the width is. -/
theorem RunState.map_without_namedColumns
    (h : ∀ name ∈ names, Column.isNumeral (Text.trim name) = true) :
    s.matrix.map (Row.without (s.namedColumns names)) =
      s.matrix.map (Row.without (numeralColumns names)) := by
  refine List.map_congr_left fun row hrow => Row.without_congr fun i hi => ?_
  rw [mem_namedColumns_of_numerals h]
  exact and_iff_right (Nat.lt_of_lt_of_le hi (Matrix.length_le_width hrow))

theorem exists_applyDeleteColumns_of_numerals
    (h : ∀ name ∈ names, Column.isNumeral (Text.trim name) = true) (s : RunState) :
    ∃ o, applyDeleteColumns s names = .ok o ∧ o.aborts = false ∧
      o.state.matrix = s.matrix.map (Row.without (numeralColumns names)) := by
  refine ⟨_, applyDeleteColumns_eq_ok_iff.mpr ⟨fun name hname => ?_, rfl⟩, rfl, ?_⟩
  · exact ⟨_, ColumnRef.resolve_of_place? (Column.place?_of_isNumeral (h name hname) _) _⟩
  · exact (s.matrix_withoutColumns names).trans (RunState.map_without_namedColumns h)

theorem exists_applyDeleteRows (s : RunState) (numbers : List Nat) (unused : Option RowCondition) :
    ∃ o, applyDeleteRows s (.byNumber numbers unused) = .ok o ∧ o.aborts = false ∧
      o.state.matrix = s.matrix.withoutRows numbers := by
  have happly : applyDeleteRows s (.byNumber numbers unused) = .ok _ := rfl
  exact ⟨_, happly, rfl, (deletesNumbered_of_applyDeleteRows happly).matrix⟩

end

/-- **Deleting rows by number and columns by numerals commutes.**  In either order a run leaves the rows
of the first worksheet with other numbers, without the cells in those columns. -/
theorem run_deletions_comm (wb : Workbook) (rowsId columnsId : String) (numbers : List Nat)
    (unused : Option RowCondition) {names : List String}
    (h : ∀ name ∈ names, Column.isNumeral (Text.trim name) = true) :
    let rows : Rule := ⟨rowsId, .deleteRows (.byNumber numbers unused)⟩
    let columns : Rule := ⟨columnsId, .deleteColumns names⟩
    (run wb [rows, columns]).map RunResult.matrix = (run wb [columns, rows]).map RunResult.matrix ∧
      (wb ≠ [] → (run wb [rows, columns]).map RunResult.matrix =
        .ok ((wb.firstSheet.withoutRows numbers).map (Row.without (numeralColumns names)))) := by
  intro rows columns
  cases hs : RunState.initial? wb with
  | none =>
    obtain rfl := RunState.eq_nil_of_initial? hs
    exact ⟨rfl, fun hne => absurd rfl hne⟩
  | some s =>
    have hmatrix := RunState.matrix_of_initial? hs
    obtain ⟨o₁, happly₁, hgoes₁, hrows⟩ := exists_applyDeleteRows s numbers unused
    obtain ⟨o₂, happly₂, hgoes₂, hboth⟩ := exists_applyDeleteColumns_of_numerals h o₁.state
    obtain ⟨o₃, happly₃, hgoes₃, hcolumns⟩ := exists_applyDeleteColumns_of_numerals h s
    obtain ⟨o₄, happly₄, hgoes₄, hboth'⟩ := exists_applyDeleteRows o₃.state numbers unused
    obtain ⟨⟨r, hr, hresult, -⟩, -⟩ := run_pair rows columns hs happly₁ hgoes₁ happly₂ hgoes₂
    obtain ⟨⟨r', hr', hresult', -⟩, -⟩ := run_pair columns rows hs happly₃ hgoes₃ happly₄ hgoes₄
    rw [hboth, hrows, hmatrix] at hresult
    rw [hboth', hcolumns, hmatrix, Matrix.withoutRows_map] at hresult'
    rw [hr, hr']
    exact ⟨congrArg Except.ok (hresult.trans hresult'.symm), fun _ => congrArg Except.ok hresult⟩

/-- The header goes, and with it the only row with a third and a fourth cell. -/
theorem run_deletions_comm_narrower :
    let wb : Workbook := [("A", [[.text "a", .text "b", .text "c", .text "d"], [.text "1", .int 2], [],
      [.text "3"]])]
    let rows : Rule := ⟨"r", .deleteRows (.byNumber [1, 3, 9] none)⟩
    let columns : Rule := ⟨"c", .deleteColumns ["3", "00", " 7 "]⟩
    (∀ name ∈ ["3", "00", " 7 "], Column.isNumeral (Text.trim name) = true) ∧
      (run wb [rows, columns]).map RunResult.matrix = (run wb [columns, rows]).map RunResult.matrix ∧
      (run wb [rows, columns]).map RunResult.matrix = .ok [[.int 2], []] := by
  intro wb rows columns
  have hnames : ∀ name ∈ ["3", "00", " 7 "], Column.isNumeral (Text.trim name) = true := by decide
  obtain ⟨hsame, hleft⟩ := run_deletions_comm wb "r" "c" [1, 3, 9] none hnames
  exact ⟨hnames, hsame, (hleft (List.cons_ne_nil _ _)).trans (congrArg Except.ok (by decide))⟩

end Sheetflow
