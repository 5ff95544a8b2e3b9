import Mathlib.Data.Finset.Card
import Mathlib.Order.Interval.Finset.Nat
import Sheetflow.Proofs.Column.Resolution
import Sheetflow.Proofs.Matrix
import Sheetflow.Proofs.Run.Steps

/-!
# Deleted rows

Rows are deleted by their numbers (`deletesNumbered_of_applyDeleteRows`), or those behind the first row
that satisfy a condition.  What a condition says of a row is `RowTest.Holds` of the cells that it
looks at, and it is `Untestable` where its column or its pattern is none.

A condition is settled once it is applied: the rows that are left do not satisfy it.  That does not make
the rule idempotent.  The matrix may have lost its widest rows, and a letter code that was a column
before may now be looked up among the headers.  Any other name stands for the same column as long as
the first row stays (`ColumnRef.resolveText_congr`).
-/

namespace Sheetflow

/-! ### By number -/

/-- As many rows are deleted by number as different numbers are those of rows. -/
theorem length_rowIndices (rows : List Nat) (count : Nat) :
    (rowIndices (rows.map Int.ofNat) count).length = (rows.toFinset ∩ Finset.Icc 1 count).card := by
  have hnodup : (rowIndices (rows.map Int.ofNat) count).Nodup := List.nodup_range.filter _
  have himage : (rowIndices (rows.map Int.ofNat) count).toFinset.image Nat.succ =
      rows.toFinset ∩ Finset.Icc 1 count := by
    ext n
    simp only [Finset.mem_image, List.mem_toFinset, mem_rowIndices, Finset.mem_inter, Finset.mem_Icc]
    constructor
    · rintro ⟨i, ⟨hi, hmem⟩, rfl⟩
      exact ⟨hmem, Nat.succ_pos i, hi⟩
    · rintro ⟨hmem, hpos, hle⟩
      exact ⟨n - 1, ⟨by omega, by rwa [Nat.sub_add_cancel hpos]⟩, Nat.sub_add_cancel hpos⟩
  rw [← himage, Finset.card_image_of_injective _ Nat.succ_injective, List.toFinset_card_of_nodup hnodup]

/-- The rows that are left are those with other numbers. -/
theorem dropRows_eq_filter {doomed rows : List Nat} {i : Nat} {m : Matrix}
    (h : ∀ k, i ≤ k → k < i + m.length → (k ∈ doomed ↔ k + 1 ∈ rows)) :
    dropRows doomed i m =
      ((m.zipIdx (i + 1)).filter fun numbered => decide (numbered.2 ∉ rows)).map (·.1) := by
  induction m generalizing i with
  | nil => rfl
  | cons row m ih =>
    have hrest := ih (i := i + 1) fun k hk hlt =>
      h k (by omega) (by rw [List.length_cons]; omega)
    have hhead := h i (Nat.le_refl i) (by rw [List.length_cons]; omega)
    rw [dropRows, List.zipIdx_cons, hrest]
    by_cases hi : i ∈ doomed
    · rw [if_pos hi, List.filter_cons_of_neg (by simpa using hhead.mp hi)]
    · rw [if_neg hi, List.filter_cons_of_pos (by simpa using fun hmem => hi (hhead.mpr hmem))]
      rfl

/-- The outcome is that the rows of these numbers, counted from one, are deleted. -/
structure DeletesNumbered (s : RunState) (rows : List Nat) (o : Outcome) : Prop where
  matrix : o.state.matrix =
    ((s.matrix.zipIdx 1).filter fun numbered => decide (numbered.2 ∉ rows)).map (·.1)
  outcome : o = .done (s.withMatrix o.state.matrix)
    ("Deleted " ++ toString (rows.toFinset ∩ Finset.Icc 1 s.matrix.length).card ++
      " row(s) by row number") []

/-! ### By condition -/

/-- What a test says of cells. -/
def RowTest.Holds : RowTest → List Cell → Prop
  | .blank _, cells => ∀ c ∈ cells, c.isBlank = true
  | .contains needle, cells => ∃ c ∈ cells, needle.toList <:+: c.toText.toList
  | .pattern source, cells =>
    ∃ node, readPattern source = .ok (.ok node) ∧ ∃ c ∈ cells, node.search c.toText = true

namespace RowCondition

/-- The column that a condition names does not exist, or its pattern is none. -/
inductive Untestable (s : RunState) (c : RowCondition) : Prop
  | column {name : String} {r : ColumnRef.Resolution} (named : c.columnName? = some name)
    (resolved : resolveNames s.headers s.width [name] = .ok r) (none : r.columns = [])
  | pattern {source message : String} (test : c.test = .pattern source)
    (read : readPattern source = .ok (.error message))

/-- The column that a condition looks at, or no single one. -/
def LooksAt (s : RunState) (c : RowCondition) (column : Option Nat) : Prop :=
  match c.columnName? with
  | none => column = none
  | some name => ∃ i, column = some i ∧ i < s.width ∧
      resolveNames s.headers s.width [name] = .ok ⟨[i], []⟩

/-- Where a report says that the condition holds. -/
def place (c : RowCondition) : String :=
  match c.columnName? with
  | some name => " in column \"" ++ name ++ "\""
  | none => ""

/-- What is reported when rows were tested, and when they were not. -/
def report (c : RowCondition) (removed : Nat) (tested : Bool) : String :=
  "Deleted " ++ toString removed ++ " row(s) matching " ++ c.test.word ++ " condition" ++
    if tested then c.place else ""

theorem report_untested (c : RowCondition) :
    c.report 0 false = "Deleted 0 row(s) matching " ++ c.test.word ++ " condition" := by
  have hzero : "Deleted " ++ toString 0 ++ " row(s) matching " = "Deleted 0 row(s) matching " := by
    decide
  simp only [report, hzero, Bool.false_eq_true, if_false, String.append_empty]

end RowCondition

theorem rowTest_eq_ok {test : RowTest} {column : Option Nat} {found : Matching}
    (h : rowTest test column = .ok found) :
    (∃ source message, test = .pattern source ∧ readPattern source = .ok (.error message) ∧
        found.test = none ∧ found.warnings.length = 1) ∨
      (∀ source message, test = .pattern source → readPattern source ≠ .ok (.error message)) ∧
        ∃ f, found = ⟨some f, []⟩ ∧
          ∀ row, f row = true ↔ test.Holds (conditionCells column row) := by
  cases test with
  | blank unused =>
    obtain rfl := Except.ok.inj h
    exact .inr ⟨nofun, _, rfl, fun row => List.all_eq_true⟩
  | contains needle =>
    obtain rfl := Except.ok.inj h
    refine .inr ⟨nofun, _, rfl, fun row => List.any_eq_true.trans ?_⟩
    simp only [Text.contains, Text.occursIn_iff, RowTest.Holds]
  | pattern source =>
    rw [rowTest] at h
    cases hread : readPattern source with
    | error e =>
      rw [hread] at h
      cases h
    | ok read =>
      rw [hread] at h
      cases read with
      | error message =>
        obtain rfl := Except.ok.inj h
        exact .inl ⟨source, message, rfl, hread, rfl, rfl⟩
      | ok node =>
        obtain rfl := Except.ok.inj h
        refine .inr ⟨?_, _, rfl, fun row => List.any_eq_true.trans ?_⟩
        · rintro _ message he hbad
          obtain rfl := RowTest.pattern.inj he
          rw [hread] at hbad
          cases hbad
        · simp only [RowTest.Holds, hread, Except.ok.injEq, exists_eq_left']

namespace RowCondition
variable {s s' : RunState} {c : RowCondition} {column : Option Nat}

theorem matching_of_looksAt (h : c.LooksAt s column) : matching s c = rowTest c.test column := by
  rw [LooksAt] at h
  rw [matching]
  cases hname : c.columnName? with
  | none =>
    rw [hname] at h
    obtain rfl : column = none := h
    rfl
  | some name =>
    rw [hname] at h
    obtain ⟨i, rfl, -, hr⟩ := h
    simp only [hr]
    cases rowTest c.test (some i) <;> rfl

theorem matching_of_unresolved {name : String} {r : ColumnRef.Resolution}
    (hname : c.columnName? = some name) (hr : resolveNames s.headers s.width [name] = .ok r)
    (hnone : r.columns = []) : matching s c = .ok ⟨none, r.warnings⟩ := by
  simp only [matching, hname, hr, hnone]

/-- A condition has a column to look at, or is told with one warning that it has none. -/
theorem looksAt_or_of_matching {found : Matching} (h : matching s c = .ok found) :
    (∃ column, c.LooksAt s column) ∨
      ∃ name r, c.columnName? = some name ∧ resolveNames s.headers s.width [name] = .ok r ∧
        r.columns = [] ∧ r.warnings.length = 1 := by
  cases hname : c.columnName? with
  | none => exact .inl ⟨none, by rw [LooksAt, hname]⟩
  | some name =>
    rw [matching, hname] at h
    cases hr : resolveNames s.headers s.width [name] with
    | error e =>
      simp only [hr] at h
      cases h
    | ok r =>
      obtain ⟨i, -, hi, rfl⟩ | ⟨hnone, hone⟩ := resolveNames_singleton_cases hr
      · exact .inl ⟨some i, by rw [LooksAt, hname]; exact ⟨i, rfl, hi, hr⟩⟩
      · exact .inr ⟨name, r, rfl, hr, hnone, hone⟩

theorem not_untestable_of_looksAt (h : c.LooksAt s column)
    (hpattern : ∀ source message, c.test = .pattern source →
      readPattern source ≠ .ok (.error message)) : ¬ c.Untestable s := by
  rintro (⟨hname, hr, hnone⟩ | ⟨htest, hread⟩)
  · rw [LooksAt, hname] at h
    obtain ⟨i, -, -, hi⟩ := h
    obtain rfl := Except.ok.inj (hi.symm.trans hr)
    cases hnone
  · exact hpattern _ _ htest hread

/-- What a condition comes to: one warning, or a test of rows. -/
theorem matching_cases {found : Matching} (h : matching s c = .ok found) :
    (c.Untestable s ∧ found.test = none ∧ found.warnings.length = 1) ∨
      ¬ c.Untestable s ∧ ∃ column f, c.LooksAt s column ∧ found = ⟨some f, []⟩ ∧
        ∀ row, f row = true ↔ c.test.Holds (conditionCells column row) := by
  obtain ⟨column, hlooks⟩ | ⟨name, r, hname, hr, hnone, hone⟩ := looksAt_or_of_matching h
  · rw [matching_of_looksAt hlooks] at h
    obtain ⟨source, message, htest, hread, hfound⟩ | ⟨hpattern, f, hfound, hf⟩ := rowTest_eq_ok h
    · exact .inl ⟨.pattern htest hread, hfound⟩
    · exact .inr ⟨not_untestable_of_looksAt hlooks hpattern, column, f, hlooks, hfound, hf⟩
  · rw [matching_of_unresolved hname hr hnone] at h
    obtain rfl := Except.ok.inj h
    exact .inl ⟨.column hname hr hnone, rfl, hone⟩

/-- Where a condition names a column, the name is no letter code. -/
def KeepsColumn (c : RowCondition) : Prop :=
  ∀ name, c.columnName? = some name → Column.isLetterCode (Text.trim name) = false

/-- In another matrix with these headers such a condition looks at the same column, or it is told that
there is no such column. -/
theorem KeepsColumn.looksAt_or (hc : c.KeepsColumn) (hheaders : s'.headers = s.headers)
    (h : c.LooksAt s column) :
    c.LooksAt s' column ∨ ∃ warnings, matching s' c = .ok ⟨none, warnings⟩ := by
  cases hname : c.columnName? with
  | none =>
    rw [LooksAt, hname] at h
    exact .inl (by rw [LooksAt, hname, h])
  | some name =>
    rw [LooksAt, hname] at h
    obtain ⟨i, rfl, hi, hr⟩ := h
    have htarget : ColumnRef.resolveText s.headers (some s.width) (Text.trim name) = .ok (some i) := by
      obtain ⟨j, hj, -, he⟩ | ⟨hnone, -⟩ := resolveNames_singleton_cases hr
      · cases he
        exact hj
      · cases hnone
    have hr' := resolveNames_singleton s'.headers s'.width name
    rw [ColumnRef.resolveText_congr (hc name hname) _ _ (some s.width), hheaders, htarget] at hr'
    rw [← hheaders] at hr'
    by_cases hi' : i < s'.width
    · refine .inl ?_
      rw [LooksAt, hname]
      refine ⟨i, rfl, hi', hr'.trans ?_⟩
      simp [Except.mapError, Except.map, ColumnRef.Resolution.add, Nat.not_le.mpr hi']
    · refine .inr ⟨_, matching_of_unresolved hname hr' ?_⟩
      simp [ColumnRef.Resolution.add, Nat.le_of_not_lt hi']

end RowCondition

/-- The outcome is that the rows behind the first that satisfy a condition are deleted. -/
structure DeletesMatching (s : RunState) (c : RowCondition) (o : Outcome) : Prop where
  untested : c.Untestable s →
    o.state = s ∧ o.warnings.length = 1 ∧ o.description = c.report 0 false
  tested : ¬ c.Untestable s → o.warnings = [] ∧
    ∃ column test, c.LooksAt s column ∧
      (∀ row, test row = true ↔ c.test.Holds (conditionCells column row)) ∧
      (∀ i, column = some i → ∀ row row', Row.cell row i = Row.cell row' i → test row = test row') ∧
      o.state.matrix = s.matrix.take 1 ++ s.matrix.tail.filter (fun row => !test row) ∧
      o.description = c.report (s.matrix.tail.filter test).length (!s.matrix.isEmpty)

section Rule
variable {s : RunState} {c : RowCondition} {unused : Option (List Nat)} {o : Outcome}

theorem deleteMatching_eq (test : Row → Bool) (m : Matrix) :
    deleteMatching test m = m.take 1 ++ m.tail.filter fun row => !test row := by
  cases m <;> rfl

/-- The state without the rows behind the first that pass a test. -/
def RunState.leftOver (s : RunState) (test : Row → Bool) : RunState :=
  if s.matrix.isEmpty then s else s.withMatrix (deleteMatching test s.matrix)

theorem RunState.matrix_leftOver (s : RunState) (test : Row → Bool) :
    (s.leftOver test).matrix = deleteMatching test s.matrix := by
  rw [leftOver]
  cases hm : s.matrix with
  | nil => exact hm
  | cons first rest =>
    exact matrix_withMatrix fun hempty => absurd (hm.symm.trans hempty) (List.cons_ne_nil _ _)

/-- No row is left to be deleted by the same test. -/
theorem filter_deleteMatching (test : Row → Bool) (m : Matrix) :
    (deleteMatching test m).tail.filter test = [] := by
  cases m with
  | nil => rfl
  | cons first rest =>
    refine List.filter_eq_nil_iff.mpr fun row hrow htest => ?_
    have hkept := (List.mem_filter.mp hrow).2
    rw [htest] at hkept
    cases hkept

theorem deleteMatching_deleteMatching (test : Row → Bool) (m : Matrix) :
    deleteMatching test (deleteMatching test m) = deleteMatching test m := by
  cases m with
  | nil => rfl
  | cons first rest =>
    simp only [deleteMatching, List.filter_filter, Bool.and_self]

theorem RunState.leftOver_leftOver (s : RunState) (test : Row → Bool) :
    (s.leftOver test).leftOver test = s.leftOver test := by
  have hempty : (s.leftOver test).matrix.isEmpty = s.matrix.isEmpty := by
    rw [matrix_leftOver]
    cases s.matrix <;> rfl
  rw [leftOver, hempty, matrix_leftOver, deleteMatching_deleteMatching, leftOver]
  split
  · rfl
  · rw [withMatrix_withMatrix]

theorem RunState.headers_leftOver (h : s.headers = .ofMatrix s.matrix) (test : Row → Bool) :
    (s.leftOver test).headers = s.headers := by
  rw [leftOver]
  cases hm : s.matrix with
  | nil => rfl
  | cons first rest =>
    rw [h, hm]
    rfl

theorem applyDeleteRows_of_untested {warnings : List String}
    (h : matching s c = .ok ⟨none, warnings⟩) :
    applyDeleteRows s (.byCondition c unused) = .ok (.done s (c.report 0 false) warnings) := by
  simp only [applyDeleteRows, h, RowCondition.report_untested]

theorem applyDeleteRows_of_tested {test : Row → Bool} {warnings : List String}
    (h : matching s c = .ok ⟨some test, warnings⟩) :
    applyDeleteRows s (.byCondition c unused) =
      .ok (.done (s.leftOver test)
        (c.report (s.matrix.tail.filter test).length (!s.matrix.isEmpty)) warnings) := by
  simp only [applyDeleteRows, h, RunState.leftOver]
  cases hm : s.matrix with
  | nil => exact congrArg (fun text => Except.ok (Outcome.done s text warnings)) c.report_untested.symm
  | cons first rest => rfl

/-- What is left over by a test has nothing more to be deleted by it. -/
theorem applyDeleteRows_leftOver {test : Row → Bool} {warnings : List String}
    (h : matching (s.leftOver test) c = .ok ⟨some test, warnings⟩) :
    applyDeleteRows (s.leftOver test) (.byCondition c unused) =
      .ok (.done (s.leftOver test) (c.report 0 (!(s.leftOver test).matrix.isEmpty)) warnings) := by
  rw [applyDeleteRows_of_tested h, RunState.leftOver_leftOver, RunState.matrix_leftOver,
    filter_deleteMatching, List.length_nil]

theorem deletesNumbered_of_applyDeleteRows {numbers : List Nat} {unused : Option RowCondition}
    (h : applyDeleteRows s (.byNumber numbers unused) = .ok o) : DeletesNumbered s numbers o := by
  obtain rfl := Except.ok.inj h
  rw [length_rowIndices]
  have hrows : dropRows (rowIndices (numbers.map Int.ofNat) s.matrix.length) 0 s.matrix =
      ((s.matrix.zipIdx 1).filter fun numbered => decide (numbered.2 ∉ numbers)).map (·.1) :=
    dropRows_eq_filter fun k _ hk => by
      rw [mem_rowIndices, and_iff_right (by rwa [Nat.zero_add] at hk)]
  have hmatrix := RunState.matrix_withMatrix (s := s)
    (m := dropRows (rowIndices (numbers.map Int.ofNat) s.matrix.length) 0 s.matrix) fun hempty => by
      rw [hempty]
      rfl
  exact ⟨hmatrix.trans hrows, by rw [Outcome.done, hmatrix]; rfl⟩

theorem matching_of_applyDeleteRows (h : applyDeleteRows s (.byCondition c unused) = .ok o) :
    ∃ found, matching s c = .ok found := by
  cases hm : matching s c with
  | error e =>
    simp only [applyDeleteRows, hm] at h
    cases h
  | ok found => exact ⟨found, rfl⟩

theorem deletesMatching_of_applyDeleteRows
    (h : applyDeleteRows s (.byCondition c unused) = .ok o) : DeletesMatching s c o := by
  obtain ⟨found, hm⟩ := matching_of_applyDeleteRows h
  obtain ⟨huntestable, hnone, hone⟩ | ⟨htestable, column, test, hlooks, rfl, htest⟩ :=
    RowCondition.matching_cases hm
  · obtain ⟨_, warnings⟩ := found
    obtain rfl : _ = none := hnone
    rw [applyDeleteRows_of_untested hm] at h
    obtain rfl := Except.ok.inj h
    exact ⟨fun _ => ⟨rfl, hone, rfl⟩, absurd huntestable⟩
  · rw [applyDeleteRows_of_tested hm] at h
    obtain rfl := Except.ok.inj h
    refine ⟨fun hu => absurd hu htestable, fun _ => ⟨rfl, column, test, hlooks, htest, ?_, ?_, rfl⟩⟩
    · rintro i rfl row row' hcell
      rw [Bool.eq_iff_iff, htest, htest, conditionCells, hcell, conditionCells]
    · exact (RunState.matrix_leftOver s test).trans (deleteMatching_eq test s.matrix)

/-- **The rule applied again finds nothing to delete**, if its condition names no column or names it
by something else than a letter code. -/
theorem applyDeleteRows_again (h : applyDeleteRows s (.byCondition c unused) = .ok o)
    (hheaders : s.headers = .ofMatrix s.matrix) (hc : c.KeepsColumn) :
    ∃ again tested, applyDeleteRows o.state (.byCondition c unused) = .ok again ∧
      again.state = o.state ∧ again.description = c.report 0 tested := by
  obtain ⟨found, hm⟩ := matching_of_applyDeleteRows h
  obtain ⟨-, hnone, -⟩ | ⟨-, column, test, hlooks, rfl, -⟩ := RowCondition.matching_cases hm
  · obtain ⟨_, warnings⟩ := found
    obtain rfl : _ = none := hnone
    have hagain := h
    rw [applyDeleteRows_of_untested hm] at h
    obtain rfl := Except.ok.inj h
    exact ⟨_, false, hagain, rfl, rfl⟩
  · rw [applyDeleteRows_of_tested hm] at h
    obtain rfl := Except.ok.inj h
    show ∃ again tested, applyDeleteRows (s.leftOver test) (.byCondition c unused) = .ok again ∧
      again.state = s.leftOver test ∧ again.description = c.report 0 tested
    obtain hlooks' | ⟨warnings, hnone⟩ :=
      hc.looksAt_or (RunState.headers_leftOver hheaders test) hlooks
    · have hm' : matching (s.leftOver test) c = .ok ⟨some test, []⟩ := by
        rw [RowCondition.matching_of_looksAt hlooks', ← RowCondition.matching_of_looksAt hlooks, hm]
      exact ⟨_, _, applyDeleteRows_leftOver hm', rfl, rfl⟩
    · exact ⟨_, false, applyDeleteRows_of_untested hnone, rfl, rfl⟩

/-- **Exactly the rows that are meant are deleted**: those of the given numbers, or those behind the
first that satisfy the condition, of which a second time there are none.  If the condition cannot be
tested, one warning says so. -/
theorem applyDeleteRows_deletes {rows : RowSelection} (h : applyDeleteRows s rows = .ok o) :
    match rows with
    | .byNumber numbers _ => DeletesNumbered s numbers o
    | .byCondition c _ => DeletesMatching s c o ∧
        (s.headers = .ofMatrix s.matrix → c.KeepsColumn →
          ∃ again tested, applyDeleteRows o.state rows = .ok again ∧
            again.state = o.state ∧ again.description = c.report 0 tested) := by
  cases rows with
  | byNumber numbers unused => exact deletesNumbered_of_applyDeleteRows h
  | byCondition c unused => exact ⟨deletesMatching_of_applyDeleteRows h, applyDeleteRows_again h⟩

/-- A column given by its header: one row is deleted, and then none, though the matrix is narrower. -/
theorem applyDeleteRows_deletes_by_header :
    let m : Matrix := [[.text "kind", .int 1], [.text "odd", .int 2, .int 3], [.text "even"]]
    let s : RunState := ⟨"A", [("A", m)], .ofMatrix m, []⟩
    let c : RowCondition := ⟨.contains "odd", some "kind"⟩
    ∃ o, applyDeleteRows s (.byCondition c none) = .ok o ∧ DeletesMatching s c o ∧
      o.state.matrix = [[.text "kind", .int 1], [.text "even"]] ∧
      ∃ again tested, applyDeleteRows o.state (.byCondition c none) = .ok again ∧
        again.state = o.state ∧ again.description = c.report 0 tested := by
  intro m s c
  have happly : applyDeleteRows s (.byCondition c none) = .ok _ := rfl
  obtain ⟨hdeletes, hagain⟩ := applyDeleteRows_deletes happly
  have hkeeps : c.KeepsColumn := by
    rintro name hname
    obtain rfl : "kind" = name := Option.some.inj hname
    decide
  exact ⟨_, happly, hdeletes, rfl, hagain rfl hkeeps⟩

/-- **A letter code may be given with blanks around it**, and then the rule is not idempotent: without
its widest row the matrix has no column `C`, but a column with the header `c`. -/
theorem applyDeleteRows_again_deletes :
    let m : Matrix := [[.text "x", .text "c"], [.text "1", .text "a", .text "z"], [.text "2", .text "z"]]
    let s : RunState := ⟨"A", [("A", m)], .ofMatrix m, []⟩
    let rows : RowSelection := .byCondition ⟨.contains "z", some " C "⟩ none
    Column.isLetterCode " C " = false ∧ s.headers = .ofMatrix s.matrix ∧
      ∃ o again, applyDeleteRows s rows = .ok o ∧ applyDeleteRows o.state rows = .ok again ∧
        o.state.matrix = [[.text "x", .text "c"], [.text "2", .text "z"]] ∧
        again.state.matrix = [[.text "x", .text "c"]] ∧
        again.description = "Deleted 1 row(s) matching contains condition in column \" C \"" := by
  intro m s rows
  exact ⟨by decide, rfl, _, _, rfl, rfl, by decide, by decide, by decide⟩

end Rule

end Sheetflow
