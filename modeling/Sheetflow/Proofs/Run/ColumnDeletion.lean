import Mathlib.Data.Finset.Sort
import Sheetflow.Proofs.Column.Resolution
import Sheetflow.Proofs.Run.Steps

/-!
# Deleted columns

Columns are deleted all at once: each row keeps, in order, the cells in the other columns
(`Row.without`).  Deleting them one after the other comes to the same if the last one is deleted first
(`foldl_eraseIdx`); a cell that goes then moves only cells behind it, in columns that have been dealt
with, and a column past the end of a row is no cell of it.

Which columns are deleted is decided before any is: those that the names stand for in the worksheet as
it is (`RunState.namedColumns`).  They are a set, so the names may come in any order and more than once.
-/

namespace Sheetflow

/-! ### Cells deleted from a row -/

/-- A row without the cells in some columns. -/
def Row.without (columns : Finset Nat) (row : Row) : Row :=
  (row.zipIdx.filter fun numbered => decide (numbered.2 ∉ columns)).map (·.1)

theorem Row.without_empty (row : Row) : row.without ∅ = row := by
  simp [without]

section Cells
variable {doomed : List Nat} {i : Nat} {row : Row}

theorem dropCells_eq_filter (doomed : List Nat) (i : Nat) (row : Row) :
    dropCells doomed i row =
      ((row.zipIdx i).filter fun numbered => decide (numbered.2 ∉ doomed)).map (·.1) := by
  induction row generalizing i with
  | nil => rfl
  | cons c row ih =>
    rw [dropCells, List.zipIdx_cons, ih]
    by_cases hi : i ∈ doomed
    · rw [if_pos hi, List.filter_cons_of_neg (by simpa using hi)]
    · rw [if_neg hi, List.filter_cons_of_pos (by simpa using hi), List.map_cons]

theorem dropCells_eq_without (doomed : List Nat) (row : Row) :
    dropCells doomed 0 row = row.without doomed.toFinset := by
  simp only [dropCells_eq_filter, Row.without, List.mem_toFinset]

/-- Nothing is deleted behind the last of the columns. -/
theorem dropCells_of_lt (h : ∀ k ∈ doomed, k < i) : dropCells doomed i row = row := by
  induction row generalizing i with
  | nil => rfl
  | cons c row ih =>
    rw [dropCells, if_neg fun hi => Nat.lt_irrefl i (h i hi), ih fun k hk => Nat.lt_succ_of_lt (h k hk)]

/-- A column behind the others may be deleted before them. -/
theorem dropCells_eraseIdx {k : Nat} (h : ∀ l ∈ doomed, l < i + k) :
    dropCells doomed i (row.eraseIdx k) = dropCells ((i + k) :: doomed) i row := by
  induction row generalizing i k with
  | nil => rfl
  | cons c row ih =>
    cases k with
    | zero =>
      rw [Nat.add_zero] at h ⊢
      have hrest : ∀ l ∈ i :: doomed, l < i + 1 :=
        List.forall_mem_cons.mpr ⟨Nat.lt_succ_self i, fun l hl => Nat.lt_succ_of_lt (h l hl)⟩
      rw [List.eraseIdx_cons_zero, dropCells_of_lt h, dropCells, if_pos List.mem_cons_self,
        dropCells_of_lt hrest]
    | succ k =>
      have hk : i + (k + 1) = i + 1 + k := by omega
      have hne : i ≠ i + 1 + k := by omega
      rw [hk] at h ⊢
      simp only [List.eraseIdx_cons_succ, dropCells, List.mem_cons, hne, false_or, ih h]

/-- **Columns may be deleted one after the other, from the last one on.** -/
theorem foldl_eraseIdx (h : doomed.Pairwise (· > ·)) (row : Row) :
    doomed.foldl List.eraseIdx row = dropCells doomed 0 row := by
  induction doomed generalizing row with
  | nil => exact (dropCells_of_lt fun _ hk => absurd hk List.not_mem_nil).symm
  | cons k doomed ih =>
    obtain ⟨hk, hrest⟩ := List.pairwise_cons.mp h
    rw [List.foldl_cons, ih hrest, dropCells_eraseIdx fun l hl => by simpa using hk l hl, Nat.zero_add]

theorem foldl_eraseIdx_sort (columns : Finset Nat) (row : Row) :
    (columns.sort (· ≥ ·)).foldl List.eraseIdx row = row.without columns := by
  rw [foldl_eraseIdx (List.sortedGT_iff_pairwise.mp columns.sortedGT_sort), dropCells_eq_without,
    Finset.sort_toFinset]

end Cells

/-! ### The rule -/

namespace RunState

/-- The column of the active worksheet that a name stands for. -/
def column? (s : RunState) (name : String) : Option Nat :=
  (ColumnRef.text name).column? s.headers s.width

/-- The columns of the active worksheet that names stand for. -/
def namedColumns (s : RunState) (names : List String) : Finset Nat :=
  (names.filterMap s.column?).toFinset

variable {s : RunState} {names names' : List String}

theorem namedColumns_congr (h : ∀ name, name ∈ names ↔ name ∈ names') :
    s.namedColumns names = s.namedColumns names' := by
  ext i
  simp only [namedColumns, List.mem_toFinset, List.mem_filterMap, h]

end RunState

/-- The outcome is that the columns of these names are deleted. -/
structure DeletesColumns (s : RunState) (names : List String) (o : Outcome) : Prop where
  matrix : o.state.matrix = s.matrix.map (Row.without (s.namedColumns names))
  oneByOne : o.state.matrix =
    s.matrix.map (((s.namedColumns names).sort (· ≥ ·)).foldl List.eraseIdx)
  nothing : s.namedColumns names = ∅ → o.state = s
  onlyMatrix : s.namedColumns names ≠ ∅ → o.state = s.withMatrix o.state.matrix
  description : o.description = "Deleted " ++ toString (s.namedColumns names).card ++ " column(s)"
  warnings : o.warnings =
    names.filterMap fun name => (ColumnRef.text name).complaint? s.headers s.width
  complaints : o.warnings.length = names.countP fun name => (s.column? name).isNone

namespace RunState
variable {s : RunState} {names names' : List String}

/-- The state without the columns of some names. -/
def withoutColumns (s : RunState) (names : List String) : RunState :=
  if s.namedColumns names = ∅ then s
  else s.withMatrix (s.matrix.map (Row.without (s.namedColumns names)))

theorem matrix_withoutColumns (s : RunState) (names : List String) :
    (s.withoutColumns names).matrix = s.matrix.map (Row.without (s.namedColumns names)) := by
  rw [withoutColumns]
  split
  · next hnone =>
    rw [hnone, List.map_congr_left fun row _ => row.without_empty, List.map_id']
  · exact matrix_withMatrix fun hempty => by rw [hempty, List.map_nil]

end RunState

section Rule
variable {s : RunState} {names : List String} {o : Outcome}

/-- Deleting columns fails for a name that is too long a numeral, and for nothing else. -/
theorem applyDeleteColumns_eq_ok_iff :
    applyDeleteColumns s names = .ok o ↔
      (∀ name ∈ names, (ColumnRef.text name).Resolves s.headers s.width) ∧
        o = .done (s.withoutColumns names)
          ("Deleted " ++ toString (s.namedColumns names).card ++ " column(s)")
          (names.filterMap fun name => (ColumnRef.text name).complaint? s.headers s.width) := by
  rw [applyDeleteColumns]
  cases hr : resolveNames s.headers s.width names with
  | error e =>
    refine ⟨nofun, fun h => ?_⟩
    rw [resolveNames_eq_ok_iff.mpr ⟨h.1, rfl⟩] at hr
    cases hr
  | ok r =>
    obtain ⟨hall, rfl⟩ := resolveNames_eq_ok_iff.mp hr
    have hset : (names.filterMap s.column?).eraseDups.toFinset = s.namedColumns names := by
      ext i
      rw [RunState.namedColumns, List.mem_toFinset, List.mem_toFinset, List.mem_eraseDups]
    have hcard := List.toFinset_card_of_nodup (nodup_eraseDups (names.filterMap s.column?))
    have hrows : dropCells (names.filterMap s.column?).eraseDups 0 =
        Row.without (s.namedColumns names) := by
      funext row
      rw [dropCells_eq_without, hset]
    have hnone : (names.filterMap s.column?).eraseDups.isEmpty = true ↔ s.namedColumns names = ∅ := by
      rw [← hset, List.toFinset_eq_empty_iff, List.isEmpty_iff]
    rw [hset] at hcard
    rw [and_iff_right hall, RunState.withoutColumns, hcard, ← hrows]
    show (if (names.filterMap s.column?).eraseDups.isEmpty then _ else _) = _ ↔ _
    by_cases hempty : (names.filterMap s.column?).eraseDups.isEmpty = true
    · rw [if_pos hempty, if_pos (hnone.mp hempty), List.isEmpty_iff.mp hempty, Except.ok.injEq, eq_comm]
      rfl
    · rw [if_neg hempty, if_neg fun h => hempty (hnone.mpr h), Except.ok.injEq, eq_comm]
      rfl

/-- **Columns are deleted all at once**: every row keeps the cells in the other columns, as if the columns
were deleted one after the other from the last one on.  There is a warning for every name that
stands for no column, and nothing is done if all names do so.  Neither the order of the names nor how
often they are given matters. -/
theorem applyDeleteColumns_deletes (h : applyDeleteColumns s names = .ok o) :
    DeletesColumns s names o ∧
      ∀ names', (∀ name, name ∈ names' ↔ name ∈ names) →
        ∃ o', applyDeleteColumns s names' = .ok o' ∧ o'.state = o.state ∧
          o'.description = o.description := by
  obtain ⟨hall, rfl⟩ := applyDeleteColumns_eq_ok_iff.mp h
  have hmatrix := s.matrix_withoutColumns names
  refine ⟨⟨hmatrix, ?_, fun hnone => if_pos hnone, fun hsome => ?_, rfl, rfl, ?_⟩, fun names' hsame => ?_⟩
  · rw [List.map_congr_left fun row _ => foldl_eraseIdx_sort (s.namedColumns names) row]
    exact hmatrix
  · show s.withoutColumns names = s.withMatrix (s.withoutColumns names).matrix
    rw [hmatrix, RunState.withoutColumns, if_neg hsome]
  · refine List.length_filterMap_eq_countP.trans (List.countP_congr fun name hname => ?_)
    rw [(hall name hname).complaint?_isSome]
    rfl
  · refine ⟨_, applyDeleteColumns_eq_ok_iff.mpr ⟨fun name hname => hall name ((hsame name).mp hname), rfl⟩,
      ?_, ?_⟩
    · simp only [Outcome.done, RunState.withoutColumns, RunState.namedColumns_congr hsame]
    · simp only [Outcome.done, RunState.namedColumns_congr hsame]

/-- One column is named in two ways, and of two names that lead nowhere one is past the width; the second
row has no cell in column `C`. -/
theorem applyDeleteColumns_deletes_by_two_names :
    let m : Matrix := [[.text "a", .text "b", .text "c"], [.text "1"], [.text "2", .text "3", .int 4]]
    let s : RunState := ⟨"A", [("A", m)], .ofMatrix m, []⟩
    let names := ["C", "x y", "a", "7", " c"]
    ∃ o, applyDeleteColumns s names = .ok o ∧ DeletesColumns s names o ∧
      o.state.matrix = [[.text "b"], [], [.text "3"]] ∧
      o.description = "Deleted 2 column(s)" ∧
      o.warnings = ["Column \"x y\" not found",
        "Column \"7\" is out of range (matrix has 3 columns)"] ∧
      ∃ o', applyDeleteColumns s ["7", "x y", "a", " c", "a", "C"] = .ok o' ∧ o'.state = o.state ∧
        o'.description = o.description := by
  intro m s names
  have happly : applyDeleteColumns s names = .ok _ := rfl
  obtain ⟨hdeletes, hsame⟩ := applyDeleteColumns_deletes happly
  refine ⟨_, happly, hdeletes, by decide, by decide, by decide, hsame _ fun name => ?_⟩
  simp only [names, List.mem_cons, List.not_mem_nil, or_false]
  grind

end Rule

end Sheetflow
