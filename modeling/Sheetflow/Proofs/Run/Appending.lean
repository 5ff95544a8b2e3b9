import Mathlib.Data.List.Basic
import Sheetflow.Proofs.Column.Resolution
import Sheetflow.Proofs.Run.Steps

/-!
# Worksheets below the active one

A rule combines the active worksheet with those that it asks for, or with those selected so far if it
asks for none (`RunState.requested`).  Of these it takes the ones that are there and are not the active
one itself, each once and in the order in which they are first asked for (`RunState.Combined`).  Every
request for a worksheet that is not there causes a warning.

Appending puts the rows of these worksheets below those of the active one (`applyCombine_appends`).  The
first row of a worksheet is left out if the active worksheet has a first row with the same header
texts (`Matrix.SameHeader`).
-/

namespace Sheetflow

/-! ### First requests -/

/-- Members of a list, each where it comes first, stand in the order of their first positions. -/
theorem pairwise_idxOf_eraseDups {α : Type} [BEq α] [LawfulBEq α] (p : α → Bool) (xs : List α) :
    (xs.filter p).eraseDups.Pairwise fun x y => xs.idxOf x < xs.idxOf y := by
  have hfind {x : α} (hx : x ∈ (xs.filter p).eraseDups) :
      xs.findIdx (fun y => Option.guard p y == some x) = xs.idxOf x := by
    have hpx : p x = true := (List.mem_filter.mp (List.mem_eraseDups.mp hx)).2
    rw [List.idxOf]
    congr 1
    funext y
    rw [Bool.eq_iff_iff, beq_iff_eq, beq_iff_eq, Option.guard_eq_some_iff]
    constructor
    · exact fun h => h.1
    · rintro rfl
      exact ⟨rfl, hpx⟩
  have hfirst := pairwise_findIdx_eraseDups (Option.guard p) xs
  rw [List.filterMap_eq_filter] at hfirst
  exact hfirst.imp_of_mem fun hx hy hlt => hfind hx ▸ hfind hy ▸ hlt

namespace RunState

/-- The worksheets that are asked for. -/
def requested (s : RunState) (sources : List String) : List String :=
  if sources.isEmpty then s.selected else sources

/-- The worksheets that are combined with the active one: of those asked for the ones that are there and
not active, each once and in the order in which they are first asked for. -/
structure Combined (s : RunState) (requested names : List String) : Prop where
  mem : ∀ name, name ∈ names ↔ name ∈ requested ∧ name ∈ s.sheets.names ∧ name ≠ s.active
  order : names.Pairwise fun name other => requested.idxOf name < requested.idxOf other

theorem combined_nil (s : RunState) : s.Combined [] [] := ⟨by simp, List.Pairwise.nil⟩

/-- The requests for worksheets that are there and not active. -/
def others (s : RunState) (requested : List String) : List String :=
  requested.filter fun name => decide (name ∈ s.sheets.names ∧ name ≠ s.active)

/-- The requests for worksheets that are not there. -/
def missing (s : RunState) (requested : List String) : List String :=
  requested.filter fun name => decide (name ∉ s.sheets.names)

end RunState

/-- The warning about a worksheet that is not there. -/
def notFound (name : String) : String := "Worksheet \"" ++ name ++ "\" not found"

/-- Going through more requests, when the worksheets of those in `done` have been found. -/
theorem combineNames_eq (s : RunState) (done requested : List String) :
    combineNames s done.eraseDups requested =
      ((done ++ s.others requested).eraseDups, (s.missing requested).map notFound) := by
  induction requested generalizing done with
  | nil =>
    rw [RunState.others, List.filter_nil, List.append_nil]
    rfl
  | cons name requested ih =>
    rw [combineNames]
    by_cases hthere : name ∈ s.sheets.names
    · have hmissing : s.missing (name :: requested) = s.missing requested := by
        simp [RunState.missing, hthere]
      rw [if_neg (not_not_intro hthere), hmissing]
      by_cases hactive : name = s.active
      · have hothers : s.others (name :: requested) = s.others requested := by
          simp [RunState.others, hactive]
        rw [if_neg fun h => h.1 hactive, hothers, ih]
      · have hothers : s.others (name :: requested) = name :: s.others requested := by
          simp [RunState.others, hthere, hactive]
        have hnext := ih (done ++ [name])
        rw [eraseDups_concat, ← List.append_cons, ← hothers] at hnext
        by_cases hdone : name ∈ done
        · rw [if_pos hdone] at hnext
          rw [if_neg fun h => h.2 (List.mem_eraseDups.mpr hdone), hnext]
        · rw [if_neg hdone] at hnext
          rw [if_pos ⟨hactive, fun h => hdone (List.mem_eraseDups.mp h)⟩, hnext]
    · have hmissing : s.missing (name :: requested) = name :: s.missing requested := by
        simp [RunState.missing, hthere]
      have hothers : s.others (name :: requested) = s.others requested := by
        simp [RunState.others, hthere]
      rw [if_pos hthere, hmissing, hothers, ih]
      rfl

/-- The worksheets that a rule finds among those asked for are the ones to be combined. -/
theorem exists_combined (s : RunState) (requested : List String) :
    ∃ names, s.Combined requested names ∧
      combineNames s [] requested = (names, (s.missing requested).map notFound) := by
  refine ⟨_, ⟨fun name => ?_, pairwise_idxOf_eraseDups _ requested⟩,
    combineNames_eq s [] requested⟩
  rw [List.mem_eraseDups, List.mem_filter, decide_eq_true_eq]

/-! ### The rule -/

namespace Combination

/-- A worksheet combined with others. -/
def sheets : Combination → Matrix → List Matrix → Matrix
  | .append => appendSheets
  | .merge => mergeSheets

/-- What the combination of worksheets reports. -/
def report (how : Combination) (names : List String) (active : String) : String :=
  "Combined " ++ toString names.length ++ " worksheet(s) into \"" ++ active ++ "\" using " ++ how.word ++
    (if names.isEmpty then "" else ": " ++ String.intercalate ", " names)

end Combination

section Rule
variable {s : RunState} {sources : List String}

theorem applyCombine_of_none (h : s.requested sources = []) (how : Combination) :
    applyCombine s sources how = .done s "Combined 0 worksheet(s)"
      ["No source worksheets given and none previously selected"] := by
  rw [applyCombine]
  exact if_pos (List.isEmpty_iff.mpr h)

/-- Both ways to combine worksheets take the same ones. -/
theorem exists_applyCombine (h : s.requested sources ≠ []) :
    ∃ names, s.Combined (s.requested sources) names ∧ ∀ how, applyCombine s sources how =
      .done (s.withMatrix (how.sheets s.matrix (names.filterMap s.sheets.sheet?)))
        (how.report names s.active) ((s.missing (s.requested sources)).map notFound) := by
  obtain ⟨names, hnames, hcombine⟩ := exists_combined s (s.requested sources)
  refine ⟨names, hnames, fun how => ?_⟩
  have happly : applyCombine s sources how =
      .done (s.withMatrix (how.sheets s.matrix
          ((combineNames s [] (s.requested sources)).1.filterMap s.sheets.sheet?)))
        (how.report (combineNames s [] (s.requested sources)).1 s.active)
        (combineNames s [] (s.requested sources)).2 := by
    rw [applyCombine]
    refine (if_neg fun he => h (List.isEmpty_iff.mp he)).trans ?_
    cases how <;> rfl
  rw [happly, hcombine]

end Rule

/-! ### Rows that are appended -/

namespace Matrix

/-- The header texts in the first row. -/
def headerTexts (m : Matrix) : List String := headerKeys (m.head?.getD [])

/-- Both worksheets have a first row, and the header texts in it are the same. -/
def SameHeader (m n : Matrix) : Prop := m ≠ [] ∧ n ≠ [] ∧ m.headerTexts = n.headerTexts

instance (m n : Matrix) : Decidable (m.SameHeader n) := inferInstanceAs (Decidable (_ ∧ _ ∧ _))

/-- The rows that go below another worksheet: all but a first row with the same header texts. -/
def rowsBelow (base m : Matrix) : List Row := if base.SameHeader m then m.tail else m

end Matrix

theorem appendedRows_eq (base source : Matrix) : appendedRows base source = base.rowsBelow source := by
  cases base with
  | nil => simp [appendedRows, Matrix.rowsBelow, Matrix.SameHeader]
  | cons header body =>
    cases source with
    | nil => simp [appendedRows, Matrix.rowsBelow, Matrix.SameHeader]
    | cons first rest =>
      simp [appendedRows, Matrix.rowsBelow, Matrix.SameHeader, Matrix.headerTexts, eq_comm]

/-- The outcome is that the rows of worksheets are put below those of the active one. -/
structure AppendsSheets (s : RunState) (requested : List String) (o : Outcome) : Prop where
  rows : ∃ names, s.Combined requested names ∧ o.state.matrix =
    s.matrix ++ names.flatMap fun name => s.matrix.rowsBelow ((s.sheets.sheet? name).getD [])
  others : ∀ name, name ≠ s.active → o.state.sheets.sheet? name = s.sheets.sheet? name
  names : o.state.sheets.names = s.sheets.names
  warnings : o.warnings =
    if requested = [] then ["No source worksheets given and none previously selected"]
    else (s.missing requested).map notFound

/-- The worksheets that are appended are those of the names. -/
theorem appendSheets_filterMap (base : Matrix) (wb : Workbook) (names : List String) :
    appendSheets base (names.filterMap wb.sheet?) =
      base ++ names.flatMap fun name => base.rowsBelow ((wb.sheet? name).getD []) := by
  rw [appendSheets]
  congr 1
  induction names with
  | nil => rfl
  | cons name names ih =>
    rw [List.flatMap_cons, ← ih]
    cases hm : wb.sheet? name with
    | none => simp [hm, Matrix.rowsBelow, Matrix.SameHeader]
    | some m => simp [hm, appendedRows_eq]

/-- **Appending loses no row and repeats none.**  Below the rows of the active worksheet stand those of the
worksheets that are asked for, each worksheet once, in the order of first request, and without its
first row if that has the header texts of the active worksheet.  Nothing else changes, and every request
for a worksheet that is not there causes one warning.  The active worksheet itself is there, as in every
state of a run. -/
theorem applyCombine_appends {s : RunState} (hactive : s.active ∈ s.sheets.names)
    (sources : List String) :
    AppendsSheets s (s.requested sources) (applyCombine s sources .append) := by
  by_cases hnone : s.requested sources = []
  · rw [applyCombine_of_none hnone, hnone]
    refine ⟨⟨[], s.combined_nil, ?_⟩, fun _ _ => rfl, rfl, rfl⟩
    exact (List.append_nil s.matrix).symm
  · obtain ⟨names, hnames, happly⟩ := exists_applyCombine hnone
    rw [happly .append]
    refine ⟨⟨names, hnames, ?_⟩, fun name hne => ?_, Workbook.names_setSheet _ _ _, ?_⟩
    · refine Eq.trans ?_ (appendSheets_filterMap s.matrix s.sheets names)
      rw [Outcome.done, RunState.withMatrix, RunState.matrix, Workbook.sheet?_setSheet_self hactive]
      rfl
    · exact Workbook.sheet?_setSheet_of_ne _ hne _
    · rw [if_neg hnone]
      rfl

/-- A worksheet is asked for twice, another is not there and a third has no first row with the header
texts of the active one. -/
theorem applyCombine_appends_selected :
    let wb : Workbook := [("A", [[.text "x"], [.int 1]]), ("B", [[.text " X "], [.int 2]]), ("C", [[.int 3]])]
    let s : RunState := ⟨"A", wb, .ofMatrix [[.text "x"], [.int 1]], ["C", "D", "A", "B", "C", "D"]⟩
    let o := applyCombine s [] .append
    s.active ∈ s.sheets.names ∧ AppendsSheets s s.selected o ∧
      o.state.matrix = [[.text "x"], [.int 1], [.int 3], [.int 2]] ∧
      o.warnings = ["Worksheet \"D\" not found", "Worksheet \"D\" not found"] := by
  intro wb s o
  have hactive : s.active ∈ s.sheets.names := by decide
  exact ⟨hactive, applyCombine_appends hactive [], by decide, by decide⟩

end Sheetflow
