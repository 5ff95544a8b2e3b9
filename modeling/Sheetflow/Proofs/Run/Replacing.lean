import Mathlib.Algebra.GroupWithZero.Nat
import Mathlib.Data.List.Basic
import Sheetflow.Proofs.Column.Resolution
import Sheetflow.Proofs.Matrix
import Sheetflow.Proofs.Run.Steps

/-!
# Replacements one after the other

Each replacement of a rule has a matrix of its own, the one that those before it leave (`Stage`).  There it
finds its columns, so a replacement that changes a header decides which columns the later ones find.  What
a rule does is told by its stages (`applyReplace_eq_ok_iff`): a cell goes through the replacements that look at
it in their stages (`Matrix.cell_replaced`), and the changes and the warnings are those of all stages.

The stages of two lists in a row are those of the first list and then, in the matrix that this list leaves,
those of the second (`Matrix.stages_append`).  So one rule with both lists does what two rules do, one after
the other (`applyReplace_append_eq_ok_iff`).
-/

namespace Sheetflow

/-! ### One replacement -/

/-- The number of columns in which two rows of one length differ. -/
def Row.differences (row other : Row) : Nat := (row.zip other).countP fun p => p.1 ≠ p.2

/-- The number of cells in which two matrices of one shape differ. -/
def Matrix.differences (m other : Matrix) : Nat :=
  ((m.zip other).map fun p => p.1.differences p.2).sum

namespace Replacement

/-- What a replacement makes of a cell that it looks at: the text with the replacement done, if that is
another text, and otherwise the cell as it was. -/
def onCell (r : Replacement) (c : Cell) : Cell :=
  if c = .empty ∨ Text.replace r.find r.replace c.toText = c.toText then c
  else .text (Text.replace r.find r.replace c.toText)

/-- What a replacement makes of a row if it looks at some columns. -/
def onRow (r : Replacement) (looksAt : Nat → Bool) (row : Row) : Row :=
  row.mapIdx fun j c => if looksAt j then r.onCell c else c

/-- What a replacement makes of a matrix if it looks at some cells. -/
def onRows (r : Replacement) (looksAt : Nat → Nat → Bool) (m : Matrix) : Matrix :=
  m.mapIdx fun i row => r.onRow (looksAt i) row

variable (r : Replacement)

theorem onCell_empty : r.onCell .empty = .empty := if_pos (.inl rfl)

theorem replaceCell?_eq (c : Cell) :
    replaceCell? r c = if r.onCell c = c then none else some (r.onCell c) := by
  rw [replaceCell?, onCell]
  by_cases hempty : c = .empty
  · simp [hempty]
  by_cases hsame : Text.replace r.find r.replace c.toText = c.toText
  · simp [hsame]
  have hfound : Text.contains c.toText r.find = true := by
    by_contra hfound
    exact hsame (Text.replace_of_not_contains (Bool.not_eq_true _ ▸ hfound) r.replace)
  have hother : Cell.text (Text.replace r.find r.replace c.toText) ≠ c :=
    fun he => hsame (congrArg Cell.toText he)
  simp [hempty, hsame, hfound, hother]

theorem onRow_cons (looksAt : Nat → Bool) (c : Cell) (row : Row) :
    r.onRow looksAt (c :: row) =
      (if looksAt 0 then r.onCell c else c) :: r.onRow (fun k => looksAt (k + 1)) row :=
  List.mapIdx_cons

theorem onRows_cons (looksAt : Nat → Nat → Bool) (row : Row) (rows : List Row) :
    r.onRows looksAt (row :: rows) =
      r.onRow (looksAt 0) row :: r.onRows (fun k => looksAt (k + 1)) rows :=
  List.mapIdx_cons

/-- Going through a row changes it, and counts the cells that become others. -/
theorem replaceInRow_eq (targets : Targets) (i j : Nat) (row : Row) :
    replaceInRow r targets i j row = (r.onRow (fun k => targets.contains i (j + k)) row,
      row.differences (r.onRow (fun k => targets.contains i (j + k)) row)) := by
  induction row generalizing j with
  | nil => rfl
  | cons c row ih =>
    have hnext : (fun k => targets.contains i (j + 1 + k)) = fun k => targets.contains i (j + (k + 1)) :=
      funext fun k => by rw [Nat.add_assoc, Nat.add_comm 1 k]
    rw [replaceInRow, ih, hnext, onRow_cons, Nat.add_zero]
    by_cases hlooks : targets.contains i j = true
    · by_cases hsame : r.onCell c = c
      · simp [hlooks, replaceCell?_eq, hsame, Row.differences]
      · simp [hlooks, replaceCell?_eq, hsame, Row.differences, Ne.symm hsame]
    · simp [hlooks, Row.differences]

theorem replaceInRows_eq (targets : Targets) (i : Nat) (rows : List Row) :
    replaceInRows r targets i rows = (r.onRows (fun k => targets.contains (i + k)) rows,
      Matrix.differences rows (r.onRows (fun k => targets.contains (i + k)) rows)) := by
  induction rows generalizing i with
  | nil => rfl
  | cons row rows ih =>
    have hnext : (fun k => targets.contains (i + 1 + k)) = fun k => targets.contains (i + (k + 1)) :=
      funext fun k => by rw [Nat.add_assoc, Nat.add_comm 1 k]
    rw [replaceInRows, ih, replaceInRow_eq, hnext, onRows_cons]
    simp [Matrix.differences]

variable {looksAt looksAt' : Nat → Nat → Bool} {m : Matrix}

theorem onRows_congr (h : ∀ i < m.length, looksAt i = looksAt' i) :
    r.onRows looksAt m = r.onRows looksAt' m := by
  refine List.ext_getElem (by simp [onRows]) fun i hi hi' => ?_
  rw [onRows, List.length_mapIdx] at hi
  simp only [onRows, List.getElem_mapIdx, h i hi]

theorem map_length_onRows (looksAt : Nat → Nat → Bool) (m : Matrix) :
    (r.onRows looksAt m).map List.length = m.map List.length := by
  refine List.ext_getElem (by simp [onRows]) fun i hi hi' => ?_
  simp only [onRows, onRow, List.getElem_map, List.getElem_mapIdx, List.length_mapIdx]

theorem cell_onRows (looksAt : Nat → Nat → Bool) (m : Matrix) (i j : Nat) :
    (r.onRows looksAt m).cell i j = if looksAt i j then r.onCell (m.cell i j) else m.cell i j := by
  simp only [Matrix.cell, Row.cell, onRows, onRow, List.getElem?_mapIdx]
  cases m[i]? with
  | none => simp [onCell_empty]
  | some row =>
    rw [Option.map_some, Option.getD_some, Option.getD_some, List.getElem?_mapIdx]
    cases row[j]? with
    | none => simp [onCell_empty]
    | some c => rfl

end Replacement

/-! ### Stages -/

/-- A replacement, and the matrix on which it is carried out. -/
structure Stage where
  entry : Replacement
  matrix : Matrix

namespace Stage

/-- Does the replacement look at the cell at row `i` and column `j`? -/
def looksAt (t : Stage) (i j : Nat) : Bool :=
  match t.entry.scope with
  | .everywhere => true
  | .columns => (t.entry.columns.getD []).any fun name =>
      (ColumnRef.text name).column? (.ofMatrix t.matrix) t.matrix.width == some j
  | .rows => (t.entry.rows.getD []).contains (i + 1)

/-- The replacement names no column by a numeral beyond the limit. -/
def Resolves (t : Stage) : Prop :=
  t.entry.scope = .columns → ∀ name ∈ t.entry.columns.getD [],
    (ColumnRef.text name).Resolves (.ofMatrix t.matrix) t.matrix.width

/-- The warnings about columns. -/
def complaints (t : Stage) : List String :=
  if t.entry.scope = .columns then
    (t.entry.columns.getD []).filterMap fun name =>
      (ColumnRef.text name).complaint? (.ofMatrix t.matrix) t.matrix.width
  else []

/-- The matrix behind the replacement. -/
def next (t : Stage) : Matrix := t.entry.onRows t.looksAt t.matrix

/-- The number of cells that the replacement changes. -/
def changes (t : Stage) : Nat := t.matrix.differences t.next

variable {t : Stage}

theorem resolves_of_targets {found : Targets × List String}
    (h : t.entry.targets t.matrix = .ok found) : t.Resolves := by
  intro hscope
  rw [Replacement.targets, hscope] at h
  cases hnames : resolveNames (.ofMatrix t.matrix) t.matrix.width (t.entry.columns.getD []) with
  | error e =>
    rw [hnames] at h
    cases h
  | ok r => exact (resolveNames_eq_ok_iff.mp hnames).1

/-- The cells that a replacement looks at are found, and the warnings are the complaints. -/
theorem exists_targets (h : t.Resolves) :
    ∃ targets, t.entry.targets t.matrix = .ok (targets, t.complaints) ∧
      ∀ i < t.matrix.length, targets.contains i = t.looksAt i := by
  cases hscope : t.entry.scope with
  | everywhere =>
    refine ⟨.everywhere, by simp [Replacement.targets, complaints, hscope], fun i _ => funext fun j => ?_⟩
    simp [Targets.contains, looksAt, hscope]
  | columns =>
    have hnames := resolveNames_eq_ok_iff.mpr ⟨h hscope, rfl⟩
    refine ⟨_, by simp only [Replacement.targets, complaints, hscope, hnames, Except.map]; rfl,
      fun i _ => funext fun j => ?_⟩
    rw [Bool.eq_iff_iff]
    simp [Targets.contains, looksAt, hscope, List.mem_eraseDups, List.mem_filterMap]
  | rows =>
    refine ⟨_, by simp only [Replacement.targets, complaints, hscope]; rfl,
      fun i hi => funext fun j => ?_⟩
    rw [Bool.eq_iff_iff]
    simp only [Targets.contains, looksAt, hscope, List.contains_iff_mem, mem_rowIndices,
      and_iff_right hi]

end Stage

/-- A replacement fails for a name that is too long a numeral, and for nothing else. -/
theorem Replacement.apply_eq_ok_iff {entry : Replacement} {acc acc' : Replaced} :
    entry.apply acc = .ok acc' ↔ (Stage.mk entry acc.matrix).Resolves ∧
      acc' = ⟨(Stage.mk entry acc.matrix).next, acc.changed + (Stage.mk entry acc.matrix).changes,
        acc.warnings ++ (Stage.mk entry acc.matrix).complaints⟩ := by
  generalize ht : Stage.mk entry acc.matrix = t
  obtain rfl : t.entry = entry := ht ▸ rfl
  have hmatrix : acc.matrix = t.matrix := ht ▸ rfl
  rw [Replacement.apply, hmatrix]
  cases hfound : t.entry.targets t.matrix with
  | error e =>
    refine ⟨nofun, fun h => ?_⟩
    obtain ⟨targets, htargets, -⟩ := Stage.exists_targets h.1
    rw [htargets] at hfound
    cases hfound
  | ok found =>
    have hresolves := Stage.resolves_of_targets hfound
    obtain ⟨targets, htargets, hlooks⟩ := Stage.exists_targets hresolves
    obtain rfl := Except.ok.inj (hfound.symm.trans htargets)
    have hnext : t.entry.onRows (fun i => targets.contains (0 + i)) t.matrix = t.next :=
      t.entry.onRows_congr fun i hi => by rw [Nat.zero_add, hlooks i hi]
    rw [and_iff_right hresolves, Except.map, Except.ok.injEq, eq_comm]
    dsimp only
    rw [replaceInRows_eq, hnext]
    rfl

namespace Matrix

/-- The stages of replacements, the first of which is carried out on the matrix `m`. -/
def stages : Matrix → List Replacement → List Stage
  | _, [] => []
  | m, r :: rest => ⟨r, m⟩ :: stages (Stage.next ⟨r, m⟩) rest

/-- What replacements make of a matrix. -/
def replaced (m : Matrix) (entries : List Replacement) : Matrix :=
  entries.foldl (fun m r => Stage.next ⟨r, m⟩) m

/-- The number of cells that replacements change, a cell being counted for each that does. -/
def changes (m : Matrix) (entries : List Replacement) : Nat :=
  ((m.stages entries).map Stage.changes).sum

/-- The warnings about the columns of replacements. -/
def complaints (m : Matrix) (entries : List Replacement) : List String :=
  (m.stages entries).flatMap Stage.complaints

theorem stages_append (m : Matrix) (first second : List Replacement) :
    m.stages (first ++ second) = m.stages first ++ (m.replaced first).stages second := by
  induction first generalizing m with
  | nil => rfl
  | cons r first ih => exact congrArg (_ :: ·) (ih _)

theorem replaced_append (m : Matrix) (first second : List Replacement) :
    m.replaced (first ++ second) = (m.replaced first).replaced second := List.foldl_append

theorem changes_cons (m : Matrix) (r : Replacement) (entries : List Replacement) :
    m.changes (r :: entries) =
      (Stage.mk r m).changes + (Stage.mk r m).next.changes entries := by
  rw [changes, stages, List.map_cons, List.sum_cons]
  rfl

theorem complaints_cons (m : Matrix) (r : Replacement) (entries : List Replacement) :
    m.complaints (r :: entries) =
      (Stage.mk r m).complaints ++ (Stage.mk r m).next.complaints entries := by
  rw [complaints, stages, List.flatMap_cons]
  rfl

theorem changes_append (m : Matrix) (first second : List Replacement) :
    m.changes (first ++ second) = m.changes first + (m.replaced first).changes second := by
  rw [changes, stages_append, List.map_append, List.sum_append]
  rfl

theorem complaints_append (m : Matrix) (first second : List Replacement) :
    m.complaints (first ++ second) = m.complaints first ++ (m.replaced first).complaints second := by
  rw [complaints, stages_append, List.flatMap_append]
  rfl

theorem map_length_replaced (m : Matrix) (entries : List Replacement) :
    (m.replaced entries).map List.length = m.map List.length := by
  induction entries generalizing m with
  | nil => rfl
  | cons r entries ih => exact (ih _).trans (r.map_length_onRows _ m)

/-- **A cell goes through the replacements that look at it.** -/
theorem cell_replaced (m : Matrix) (entries : List Replacement) (i j : Nat) :
    (m.replaced entries).cell i j =
      ((m.stages entries).filter fun t => t.looksAt i j).foldl (fun c t => t.entry.onCell c)
        (m.cell i j) := by
  induction entries generalizing m with
  | nil => rfl
  | cons r entries ih =>
    have hnext : (Stage.next ⟨r, m⟩).cell i j =
        if Stage.looksAt ⟨r, m⟩ i j then r.onCell (m.cell i j) else m.cell i j := r.cell_onRows _ m i j
    rw [stages, List.filter_cons]
    refine (ih _).trans ?_
    rw [hnext]
    split
    · rfl
    · rfl

end Matrix

theorem replaceAll_eq_ok_iff {acc r : Replaced} {entries : List Replacement} :
    replaceAll acc entries = .ok r ↔
      (∀ t ∈ acc.matrix.stages entries, t.Resolves) ∧
        r = ⟨acc.matrix.replaced entries, acc.changed + acc.matrix.changes entries,
          acc.warnings ++ acc.matrix.complaints entries⟩ := by
  induction entries generalizing acc with
  | nil =>
    simp [replaceAll, Matrix.stages, Matrix.replaced, Matrix.changes, Matrix.complaints, eq_comm]
  | cons entry entries ih =>
    rw [replaceAll, Matrix.stages, List.forall_mem_cons]
    cases happly : entry.apply acc with
    | error e =>
      refine ⟨nofun, fun h => ?_⟩
      rw [Replacement.apply_eq_ok_iff.mpr ⟨h.1.1, rfl⟩] at happly
      cases happly
    | ok acc' =>
      obtain ⟨hresolves, rfl⟩ := Replacement.apply_eq_ok_iff.mp happly
      dsimp only
      rw [ih, and_iff_right hresolves, Matrix.changes_cons, Matrix.complaints_cons, Nat.add_assoc,
        List.append_assoc]
      rfl

/-! ### The rule -/

/-- What a replacing rule reports. -/
def replaceReport (changed count : Nat) : String :=
  "Replaced characters in " ++ toString changed ++ " cell(s) using " ++ toString count ++
    " replacement(s)"

/-- The outcome is that replacements are carried out, one after the other. -/
structure Replaces (s : RunState) (entries : List Replacement) (o : Outcome) : Prop where
  onlyMatrix : o.state = s.withMatrix o.state.matrix
  lengths : o.state.matrix.map List.length = s.matrix.map List.length
  cell : ∀ i j, o.state.matrix.cell i j =
    ((s.matrix.stages entries).filter fun t => t.looksAt i j).foldl (fun c t => t.entry.onCell c)
      (s.matrix.cell i j)
  empty : ∀ i j, s.matrix.cell i j = .empty → o.state.matrix.cell i j = .empty
  untouched : ∀ i j, (∀ t ∈ s.matrix.stages entries, t.looksAt i j = false) →
    o.state.matrix.cell i j = s.matrix.cell i j
  description : o.description = replaceReport (s.matrix.changes entries) entries.length
  warnings : o.warnings = s.matrix.complaints entries

/-- Of two rules with one id, the first has the outcome `o₁` and the second then `o₂`, and together they do
what one rule with the outcome `o` does. -/
structure Composes (s : RunState) (first second : List Replacement) (o o₁ o₂ : Outcome) : Prop where
  appliesFirst : applyReplace s first = .ok o₁
  appliesSecond : applyReplace o₁.state second = .ok o₂
  replacesFirst : Replaces s first o₁
  replacesSecond : Replaces o₁.state second o₂
  changes : s.matrix.changes (first ++ second) =
    s.matrix.changes first + o₁.state.matrix.changes second
  progress : ∀ (p : Progress) (id : String),
    let whole := p.add ⟨id, .replaceCharacters (first ++ second)⟩ o
    let parts := (p.add ⟨id, .replaceCharacters first⟩ o₁).add ⟨id, .replaceCharacters second⟩ o₂
    parts.state = whole.state ∧ parts.warnings = whole.warnings

section Rule
variable {s : RunState} {entries : List Replacement} {o : Outcome}

theorem applyReplace_eq_ok_iff :
    applyReplace s entries = .ok o ↔ (∀ t ∈ s.matrix.stages entries, t.Resolves) ∧
      o = .done (s.withMatrix (s.matrix.replaced entries))
        (replaceReport (s.matrix.changes entries) entries.length) (s.matrix.complaints entries) := by
  rw [applyReplace]
  cases hall : replaceAll ⟨s.matrix, 0, []⟩ entries with
  | error e =>
    refine ⟨nofun, fun h => ?_⟩
    rw [replaceAll_eq_ok_iff.mpr ⟨h.1, rfl⟩] at hall
    cases hall
  | ok r =>
    obtain ⟨hresolve, rfl⟩ := replaceAll_eq_ok_iff.mp hall
    rw [and_iff_right hresolve, Except.map, Except.ok.injEq, eq_comm, Nat.zero_add, List.nil_append]
    rfl

theorem RunState.matrix_replaced (s : RunState) (entries : List Replacement) :
    (s.withMatrix (s.matrix.replaced entries)).matrix = s.matrix.replaced entries :=
  matrix_withMatrix fun hempty => by
    rw [← List.map_eq_nil_iff (f := List.length), Matrix.map_length_replaced, hempty, List.map_nil]

theorem replaces_of_applyReplace (h : applyReplace s entries = .ok o) : Replaces s entries o := by
  obtain ⟨-, rfl⟩ := applyReplace_eq_ok_iff.mp h
  have hmatrix := s.matrix_replaced entries
  have hcell (i j : Nat) : (s.withMatrix (s.matrix.replaced entries)).matrix.cell i j = _ :=
    (congrArg (Matrix.cell · i j) hmatrix).trans (s.matrix.cell_replaced entries i j)
  refine ⟨congrArg s.withMatrix hmatrix.symm, ?_, hcell, fun i j hempty => ?_, fun i j hother => ?_, rfl,
    rfl⟩
  · exact (congrArg (List.map List.length) hmatrix).trans (s.matrix.map_length_replaced entries)
  · refine (hcell i j).trans ?_
    rw [hempty]
    exact List.foldl_fixed' (fun t => t.entry.onCell_empty) _
  · refine (hcell i j).trans ?_
    rw [List.filter_eq_nil_iff.mpr (by simpa using hother), List.foldl_nil]

/-- One rule with two lists of replacements does what two rules do, one after the other. -/
theorem applyReplace_append_eq_ok_iff {first second : List Replacement} :
    applyReplace s (first ++ second) = .ok o ↔
      ∃ o₁ o₂, applyReplace s first = .ok o₁ ∧ applyReplace o₁.state second = .ok o₂ ∧
        o = .done o₂.state
          (replaceReport (s.matrix.changes first + o₁.state.matrix.changes second)
            (first ++ second).length)
          (o₁.warnings ++ o₂.warnings) := by
  have hsecond (o₂ : Outcome) : applyReplace (s.withMatrix (s.matrix.replaced first)) second = .ok o₂ ↔
      (∀ t ∈ (s.matrix.replaced first).stages second, t.Resolves) ∧
        o₂ = .done (s.withMatrix (s.matrix.replaced (first ++ second)))
          (replaceReport ((s.matrix.replaced first).changes second) second.length)
          ((s.matrix.replaced first).complaints second) := by
    rw [applyReplace_eq_ok_iff, s.matrix_replaced, RunState.withMatrix_withMatrix,
      Matrix.replaced_append]
  rw [applyReplace_eq_ok_iff, Matrix.stages_append, List.forall_mem_append, Matrix.changes_append,
    Matrix.complaints_append]
  constructor
  · rintro ⟨⟨h₁, h₂⟩, rfl⟩
    refine ⟨_, _, applyReplace_eq_ok_iff.mpr ⟨h₁, rfl⟩, (hsecond _).mpr ⟨h₂, rfl⟩, ?_⟩
    simp only [Outcome.done, s.matrix_replaced]
  · rintro ⟨o₁, o₂, h₁, h₂, rfl⟩
    obtain ⟨hfirst, rfl⟩ := applyReplace_eq_ok_iff.mp h₁
    obtain ⟨hrest, rfl⟩ := (hsecond o₂).mp h₂
    refine ⟨⟨hfirst, hrest⟩, ?_⟩
    simp only [Outcome.done, s.matrix_replaced]

/-- **Replacements compose.**  One rule with two lists of replacements does what two rules with one list each
do, and fails if one of these fails; the cells that it reports are those that both report.  No row changes
its length, and no empty cell is filled.  Each cell goes through the replacements that look at it, in the
matrices that those before them leave, and `Replacement.onCell` says what each makes of it. -/
theorem applyReplace_composes (s : RunState) (first second : List Replacement) :
    ((∃ o, applyReplace s (first ++ second) = .ok o) ↔
        ∃ o₁ o₂, applyReplace s first = .ok o₁ ∧ applyReplace o₁.state second = .ok o₂) ∧
      ∀ o, applyReplace s (first ++ second) = .ok o →
        Replaces s (first ++ second) o ∧ ∃ o₁ o₂, Composes s first second o o₁ o₂ := by
  refine ⟨⟨?_, ?_⟩, fun o h => ⟨replaces_of_applyReplace h, ?_⟩⟩
  · rintro ⟨o, h⟩
    obtain ⟨o₁, o₂, h₁, h₂, -⟩ := applyReplace_append_eq_ok_iff.mp h
    exact ⟨o₁, o₂, h₁, h₂⟩
  · rintro ⟨o₁, o₂, h₁, h₂⟩
    exact ⟨_, applyReplace_append_eq_ok_iff.mpr ⟨o₁, o₂, h₁, h₂, rfl⟩⟩
  · obtain ⟨o₁, o₂, h₁, h₂, rfl⟩ := applyReplace_append_eq_ok_iff.mp h
    refine ⟨o₁, o₂, h₁, h₂, replaces_of_applyReplace h₁, replaces_of_applyReplace h₂, ?_,
      fun p id => ⟨rfl, ?_⟩⟩
    · obtain ⟨-, rfl⟩ := applyReplace_eq_ok_iff.mp h₁
      rw [Matrix.changes_append]
      exact congrArg (_ + Matrix.changes · second) (s.matrix_replaced first).symm
    · simp only [Progress.add, Outcome.done, List.map_append, List.append_assoc]
      rfl

/-- A column is named by the header that an earlier replacement has put, and numbers become texts. -/
theorem applyReplace_composes_renamed :
    let m : Matrix := [[.text "old", .text "n"], [.text "a-b", .int 10], [.empty, .int 31, .int 5]]
    let s : RunState := ⟨"A", [("A", m)], .ofMatrix m, []⟩
    let first : List Replacement :=
      [⟨"old", "new", .rows, none, some [1]⟩, ⟨"1", "7", .everywhere, none, none⟩]
    let second : List Replacement := [⟨"-", "", .columns, some ["new", "x y"], none⟩]
    ∃ o, applyReplace s (first ++ second) = .ok o ∧ Replaces s (first ++ second) o ∧
      (∃ o₁ o₂, Composes s first second o o₁ o₂) ∧
      o.state.matrix =
        [[.text "new", .text "n"], [.text "ab", .text "70"], [.empty, .text "37", .int 5]] ∧
      o.description = "Replaced characters in 4 cell(s) using 3 replacement(s)" ∧
      o.warnings = ["Column \"x y\" not found"] := by
  intro m s first second
  have happly : applyReplace s (first ++ second) = .ok _ := rfl
  obtain ⟨hreplaces, hcomposes⟩ := (applyReplace_composes s first second).2 _ happly
  exact ⟨_, happly, hreplaces, hcomposes, by decide, by decide, by decide⟩

end Rule

end Sheetflow
