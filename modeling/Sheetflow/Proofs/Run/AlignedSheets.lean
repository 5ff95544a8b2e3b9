import Sheetflow.Proofs.Run.Appending
import Sheetflow.Proofs.Run.Merge

/-!
# Worksheets with one header

A worksheet is a table if its rows are as long as its first row, and the header texts in that row are
distinct and not empty (`Matrix.IsTable`).  Below a table other worksheets with the same header texts in
the same order are appended and merged alike (`mergeSheets_eq_appendSheets`): every column of such a
worksheet is aligned with the column of the table at its own index (`Merge.aligned_of_sameTexts`), so a
merge brings no new column (`Merge.eq_of_placed`), and a row spread over the columns is the row as it was
(`Merge.scatter_range`).
-/

namespace Sheetflow

attribute [local irreducible] normalText

/-! ### Tables -/

namespace Row

theorem pad_of_length {row : Row} {n : Nat} (h : row.length = n) : row.pad n = row := by
  rw [pad, h, Nat.sub_self]
  exact List.append_nil row

/-- Cells in the same columns of rows with the same header texts. -/
theorem key_cell_congr {row other : Row} (h : headerKeys row = headerKeys other) (i : Nat) :
    (row.cell i).key = (other.cell i).key := by
  have hkey (r : Row) : (r.cell i).key = ((headerKeys r)[i]?).getD (Cell.key .empty) := by
    rw [headerKeys, List.getElem?_map, Option.getD_map]
    rfl
  rw [hkey, hkey, h]

theorem length_congr {row other : Row} (h : headerKeys row = headerKeys other) :
    row.length = other.length := by
  have hlen := congrArg List.length h
  rwa [headerKeys, headerKeys, List.length_map, List.length_map] at hlen

/-- Where header texts are distinct, a column is the first with its own. -/
theorem isFirst_of_nodup {row : Row} (h : (headerKeys row).Nodup) {i : Nat} (hi : i < row.length) :
    row.IsFirst (row.cell i).key i := by
  refine ⟨hi, rfl, fun k hk he => Nat.ne_of_lt hk ?_⟩
  have hget (j : Nat) (hj : j < row.length) : (headerKeys row)[j]? = some (row.cell j).key := by
    rw [headerKeys, List.getElem?_map, cell, List.getElem?_eq_getElem hj]
    rfl
  have hk' : k < row.length := Nat.lt_trans hk hi
  refine (List.getElem?_inj ?_ h).mp ?_
  · rwa [headerKeys, List.length_map]
  · rw [hget k hk', hget i hi, he]

end Row

namespace Matrix

/-- All rows are as long as the first. -/
def IsRectangular (m : Matrix) : Prop := ∀ row ∈ m, row.length = m.headerWidth

instance (m : Matrix) : Decidable m.IsRectangular := inferInstanceAs (Decidable (∀ row ∈ m, _))

/-- A rectangle in which every column has a header text of its own. -/
structure IsTable (m : Matrix) : Prop where
  nonempty : m ≠ []
  rectangular : m.IsRectangular
  named : "" ∉ m.headerTexts
  distinct : m.headerTexts.Nodup

/-- The worksheet is empty, or a rectangle with the header texts of another one in the same order. -/
def SameColumns (base m : Matrix) : Prop := m = [] ∨ (m.IsRectangular ∧ m.headerTexts = base.headerTexts)

instance (base m : Matrix) : Decidable (base.SameColumns m) := inferInstanceAs (Decidable (_ ∨ _))

variable {m base : Matrix}

theorem IsRectangular.header_eq (h : m.IsRectangular) : m.header = m.head?.getD [] := by
  cases m with
  | nil => rfl
  | cons first body =>
    obtain ⟨row, hrow, hwidth⟩ := exists_length_eq_width (List.cons_ne_nil first body)
    exact Row.pad_of_length (hwidth ▸ (h row hrow).symm)

theorem SameColumns.length_eq (h : base.SameColumns m) {row : Row} (hrow : row ∈ m) :
    row.length = base.headerWidth := by
  rcases h with rfl | ⟨hrect, htexts⟩
  · cases hrow
  · exact (hrect row hrow).trans (Row.length_congr htexts)

/-- What goes below a worksheet that is not empty are the rows below the header. -/
theorem SameColumns.rowsBelow_eq (h : base.SameColumns m) (hbase : base ≠ []) :
    base.rowsBelow m = m.drop 1 := by
  rw [rowsBelow, List.drop_one]
  split
  · rfl
  · next hother =>
    have hm : m = [] := by
      by_contra hm
      exact hother ⟨hbase, hm, (h.resolve_left hm).2.symm⟩
    rw [hm, List.tail_nil]

end Matrix

/-! ### Merging below a table -/

namespace Merge

/-- A row spread over columns from the first on is the row as it was. -/
theorem scatter_range (row : Row) : scatter row.length (List.range row.length) row = row := by
  have hspread : Spread _ _ row.length row _ := spread_scatter List.nodup_range
    (fun i hi => List.mem_range.mp hi) (Nat.le_of_eq List.length_range.symm)
  refine Row.ext_cell hspread.length fun i hi => ?_
  rw [hspread.length] at hi
  have hcell := hspread.cell i (by rwa [List.length_range])
  rwa [columnAt, List.getElem?_range hi, Option.getD_some] at hcell

section Placing
variable {prior source : Row}

/-- Where the header texts are those of `prior` in the same order, distinct and not empty, every column is
aligned with the one at its own index. -/
theorem aligned_of_sameTexts (htexts : headerKeys source = headerKeys prior)
    (hnamed : "" ∉ headerKeys prior) (hdistinct : (headerKeys prior).Nodup) {j : Nat}
    (hj : j < source.length) :
    prior.IsFirst (source.cell j).key j ∧ Aligned prior source j := by
  have hfirst : prior.IsFirst (source.cell j).key j := by
    rw [Row.key_cell_congr htexts]
    exact Row.isFirst_of_nodup hdistinct (Row.length_congr htexts ▸ hj)
  refine ⟨hfirst, fun he => hnamed ?_, fun k hk => ?_, j, hfirst.1, hfirst.2.1⟩
  · rw [← htexts, ← he]
    exact List.mem_map_of_mem (Row.cell_mem hj)
  · rw [Row.key_cell_congr htexts k]
    exact hfirst.2.2 k hk

/-- So the columns go to those of `prior` in order, and none is new. -/
theorem eq_of_placed {h : MergeHeader} {taken : List Nat}
    (hp : MergeHeader.Placed prior source h taken) (htexts : headerKeys source = headerKeys prior)
    (hnamed : "" ∉ headerKeys prior) (hdistinct : (headerKeys prior).Nodup) :
    h.cells = prior ∧ taken = List.range source.length := by
  have htaken : taken = List.range source.length := by
    refine List.ext_getElem (by rw [List.length_range, hp.length]) fun j hj _ => ?_
    obtain ⟨hfirst, haligned⟩ := aligned_of_sameTexts htexts hnamed hdistinct (hp.length ▸ hj)
    rw [List.getElem_range]
    exact ((hp.stands j _ (List.getElem?_eq_getElem hj)).first haligned).unique hfirst
  refine ⟨?_, htaken⟩
  -- a new column would be among those taken, and these are all old
  obtain ⟨added, hgrown, -⟩ := hp.grown
  cases added with
  | nil => rw [hgrown, List.append_nil]
  | cons c added =>
    have hnew := hp.brought prior.length (Nat.le_refl _) (by simp [hgrown])
    rw [htaken, List.mem_range, Row.length_congr htexts] at hnew
    exact absurd hnew (Nat.lt_irrefl _)

end Placing

variable {base : Matrix} {sources : List Matrix}

/-- Behind worksheets with the same columns the header is that of the base, and the rows are those of
the base and of the worksheets. -/
theorem after_of_sameColumns (hbase : base.IsTable) (hsources : ∀ m ∈ sources, base.SameColumns m) :
    (after base sources).1.cells = base.head?.getD [] ∧
      (after base sources).2 = base.drop 1 ++ sources.flatMap (List.drop 1) := by
  induction sources using List.reverseRecOn with
  | nil => exact ⟨hbase.rectangular.header_eq, (List.append_nil _).symm⟩
  | append_singleton before source ih =>
    rw [List.forall_mem_append, List.forall_mem_singleton] at hsources
    obtain ⟨hcells, hrows⟩ := ih hsources.1
    rw [after_concat, List.flatMap_append, List.flatMap_singleton, ← List.append_assoc, ← hrows]
    rcases hsources.2 with rfl | ⟨hrect, htexts⟩
    · exact ⟨hcells, rfl⟩
    · have hp := placed_placement base before source
      rw [hcells, hrect.header_eq] at hp
      obtain ⟨hnext, htaken⟩ := eq_of_placed hp htexts hbase.named hbase.distinct
      refine ⟨hnext, congrArg ((after base before).2 ++ ·) ?_⟩
      have hscatter (row : Row) (hrow : row ∈ source.drop 1) :
          scatter (placement base before source).1.cells.length
            (placement base before source).2 row = row := by
        have hlen : row.length = (source.head?.getD []).length := hrect row (List.mem_of_mem_drop hrow)
        rw [hnext, htaken, ← Row.length_congr htexts, ← hlen]
        exact scatter_range row
      exact (List.map_congr_left hscatter).trans (List.map_id' _)

end Merge

/-- **Below a table, worksheets with the same columns are merged as they are appended.** -/
theorem mergeSheets_eq_appendSheets {base : Matrix} {sources : List Matrix} (hbase : base.IsTable)
    (hsources : ∀ m ∈ sources, base.SameColumns m) :
    mergeSheets base sources = appendSheets base sources := by
  obtain ⟨hcells, hrows⟩ := Merge.after_of_sameColumns hbase hsources
  have hpad (row : Row) (hrow : row ∈ base.drop 1 ++ sources.flatMap (List.drop 1)) :
      row.pad (base.head?.getD []).length = row := by
    refine Row.pad_of_length ?_
    rcases List.mem_append.mp hrow with hrow | hrow
    · exact hbase.rectangular row (List.mem_of_mem_drop hrow)
    · obtain ⟨m, hm, hrow⟩ := List.mem_flatMap.mp hrow
      exact (hsources m hm).length_eq (List.mem_of_mem_drop hrow)
  have happended : sources.flatMap (appendedRows base) = sources.flatMap (List.drop 1) :=
    List.flatMap_congr fun m hm => by
      rw [appendedRows_eq, (hsources m hm).rowsBelow_eq hbase.nonempty]
  rw [Merge.mergeSheets_eq, hcells, hrows, (List.map_congr_left hpad).trans (List.map_id' _), appendSheets,
    happended, ← List.cons_append]
  congr 1
  cases base with
  | nil => exact absurd rfl hbase.nonempty
  | cons first body => rfl

/-- **Merging and appending agree** if the active worksheet is a table and the worksheets that are asked
for have the same columns or are empty.  Both put the rows of these worksheets below those of the active
one, and leave out the headers. -/
theorem applyCombine_merge_eq_append {s : RunState} {sources : List String}
    (hactive : s.matrix.IsTable)
    (hsources : ∀ name ∈ s.requested sources,
      s.matrix.SameColumns ((s.sheets.sheet? name).getD [])) :
    (applyCombine s sources .merge).state = (applyCombine s sources .append).state ∧
      (applyCombine s sources .merge).warnings = (applyCombine s sources .append).warnings ∧
      ∃ names, s.Combined (s.requested sources) names ∧
        (applyCombine s sources .merge).state.matrix =
          s.matrix ++ names.flatMap fun name => ((s.sheets.sheet? name).getD []).drop 1 := by
  by_cases hnone : s.requested sources = []
  · rw [applyCombine_of_none hnone, applyCombine_of_none hnone, hnone]
    exact ⟨rfl, rfl, [], s.combined_nil, (List.append_nil s.matrix).symm⟩
  · obtain ⟨names, hnames, happly⟩ := exists_applyCombine hnone
    have hbelow (name : String) (hname : name ∈ names) :
        s.matrix.SameColumns ((s.sheets.sheet? name).getD []) :=
      hsources name ((hnames.mem name).mp hname).1
    have hmerge : mergeSheets s.matrix (names.filterMap s.sheets.sheet?) =
        appendSheets s.matrix (names.filterMap s.sheets.sheet?) := by
      refine mergeSheets_eq_appendSheets hactive fun m hm => ?_
      obtain ⟨name, hname, hfound⟩ := List.mem_filterMap.mp hm
      have hcolumns := hbelow name hname
      rwa [hfound, Option.getD_some] at hcolumns
    simp only [happly, Combination.sheets, hmerge, Outcome.done, true_and]
    refine ⟨names, hnames, ?_⟩
    rw [RunState.matrix_withMatrix fun h => absurd h hactive.nonempty, appendSheets_filterMap]
    refine congrArg (s.matrix ++ ·) (List.flatMap_congr fun name hname => ?_)
    exact (hbelow name hname).rowsBelow_eq hactive.nonempty

/-- The header texts are written in other ways, and a worksheet is empty. -/
theorem applyCombine_merge_eq_append_spellings :
    let wb : Workbook := [("A", [[.text "Name", .text "Qty"], [.text "a", .int 1]]),
      ("B", [[.text " name", .text "QTY"], [.text "b", .empty]]), ("C", [])]
    let s : RunState := ⟨"A", wb, .ofMatrix [[.text "Name", .text "Qty"], [.text "a", .int 1]], []⟩
    s.matrix.IsTable ∧
      (∀ name ∈ s.requested ["C", "B"], s.matrix.SameColumns ((s.sheets.sheet? name).getD [])) ∧
      (applyCombine s ["C", "B"] .merge).state = (applyCombine s ["C", "B"] .append).state ∧
      (applyCombine s ["C", "B"] .merge).state.matrix =
        [[.text "Name", .text "Qty"], [.text "a", .int 1], [.text "b", .empty]] := by
  intro wb s
  have hactive : s.matrix.IsTable :=
    ⟨by decide +kernel, by decide +kernel, by decide +kernel, by decide +kernel⟩
  have hsources : ∀ name ∈ s.requested ["C", "B"],
      s.matrix.SameColumns ((s.sheets.sheet? name).getD []) := by decide +kernel
  exact ⟨hactive, hsources, (applyCombine_merge_eq_append hactive hsources).1, by decide +kernel⟩

end Sheetflow
