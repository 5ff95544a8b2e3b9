import Sheetflow.Proofs.Column.Place
import Sheetflow.Proofs.Run.Log
import Sheetflow.Proofs.Run.Replacing

/-!
# Replacements in either order

A replacement changes no row's length, so the width of the matrix stays, and with it the columns that are
named by their place (`Stage.looksAt_of_namesPlaces`), even when header texts change.  The entries of a rule
then look at the same columns in whatever matrix of this width they are carried out
(`Matrix.cell_replaced_of_namesPlaces`).  So rules that look at different columns do not meet in any cell
(`Matrix.replaced_comm`), and the complaints of each are the same before the other and behind it
(`Matrix.complaints_of_namesPlaces`).
-/

namespace Sheetflow

namespace Replacement

/-- The replacement looks at columns, and names them by their place in a matrix of this width. -/
def NamesPlaces (width : Nat) (r : Replacement) : Prop :=
  r.scope = .columns ∧ ∀ name ∈ r.columns.getD [], (Column.place? width name).isSome = true

instance (width : Nat) (r : Replacement) : Decidable (r.NamesPlaces width) :=
  inferInstanceAs (Decidable (_ ∧ _))

/-- Does the replacement name a column by its place? -/
def namesColumn (width : Nat) (r : Replacement) (j : Nat) : Bool :=
  (r.columns.getD []).any fun name => Column.place? width name == some j

end Replacement

namespace Stage
variable {t : Stage}

theorem resolves_of_namesPlaces (h : t.entry.NamesPlaces t.matrix.width) : t.Resolves := by
  intro _ name hname
  obtain ⟨i, hi⟩ := Option.isSome_iff_exists.mp (h.2 name hname)
  exact ⟨_, ColumnRef.resolve_of_place? hi _⟩

/-- The columns that the replacement looks at do not depend on the header texts. -/
theorem looksAt_of_namesPlaces (h : t.entry.NamesPlaces t.matrix.width) (i j : Nat) :
    t.looksAt i j = (decide (j < t.matrix.width) && t.entry.namesColumn t.matrix.width j) := by
  have hname (name : String) (hname : name ∈ t.entry.columns.getD []) :
      (ColumnRef.text name).column? (.ofMatrix t.matrix) t.matrix.width = some j ↔
        j < t.matrix.width ∧ Column.place? t.matrix.width name = some j := by
    obtain ⟨k, hk⟩ := Option.isSome_iff_exists.mp (h.2 name hname)
    rw [ColumnRef.column?_eq_some_iff_of_place? hk, hk, Option.some.injEq]
  rw [looksAt, h.1, Bool.eq_iff_iff]
  simp only [Replacement.namesColumn, Bool.and_eq_true, decide_eq_true_eq, List.any_eq_true, beq_iff_eq]
  constructor
  · rintro ⟨name, hmem, he⟩
    obtain ⟨hj, hplace⟩ := (hname name hmem).mp he
    exact ⟨hj, name, hmem, hplace⟩
  · rintro ⟨hj, name, hmem, hplace⟩
    exact ⟨name, hmem, (hname name hmem).mpr ⟨hj, hplace⟩⟩

/-- Whatever the header texts are, the complaints are the same. -/
theorem complaints_congr {r : Replacement} {m m' : Matrix} (h : r.NamesPlaces m.width)
    (hwidth : m'.width = m.width) : complaints ⟨r, m'⟩ = complaints ⟨r, m⟩ := by
  rw [complaints, complaints, hwidth]
  split
  · refine List.filterMap_congr fun name hname => ?_
    obtain ⟨i, hi⟩ := Option.isSome_iff_exists.mp (h.2 name hname)
    exact ColumnRef.complaint?_congr hi _ _
  · rfl

end Stage

namespace Matrix
variable {m m' : Matrix} {entries : List Replacement}

theorem width_replaced (m : Matrix) (entries : List Replacement) :
    (m.replaced entries).width = m.width := width_congr (m.map_length_replaced entries)

theorem map_entry_stages (m : Matrix) (entries : List Replacement) :
    (m.stages entries).map Stage.entry = entries := by
  induction entries generalizing m with
  | nil => rfl
  | cons r entries ih => exact congrArg (r :: ·) (ih _)

theorem width_of_mem_stages {t : Stage} (h : t ∈ m.stages entries) : t.matrix.width = m.width := by
  induction entries generalizing m with
  | nil => cases h
  | cons r entries ih =>
    rcases List.mem_cons.mp h with rfl | h
    · rfl
    · exact (ih h).trans (width_congr (r.map_length_onRows _ m))

variable (h : ∀ r ∈ entries, r.NamesPlaces m.width)
include h

theorem namesPlaces_of_mem_stages {t : Stage} (ht : t ∈ m.stages entries) :
    t.entry.NamesPlaces t.matrix.width := by
  rw [width_of_mem_stages ht]
  exact h t.entry (map_entry_stages m entries ▸ List.mem_map_of_mem ht)

/-- A cell goes through the replacements that name its column. -/
theorem cell_replaced_of_namesPlaces (i j : Nat) :
    (m.replaced entries).cell i j =
      (entries.filter fun r => decide (j < m.width) && r.namesColumn m.width j).foldl
        (fun c r => r.onCell c) (m.cell i j) := by
  rw [cell_replaced]
  conv => rhs; rw [← map_entry_stages m entries, List.filter_map, List.foldl_map]
  refine congrArg (List.foldl _ _) (List.filter_congr fun t ht => ?_)
  rw [Stage.looksAt_of_namesPlaces (namesPlaces_of_mem_stages h ht), width_of_mem_stages ht]
  rfl

/-- The complaints are the same in every matrix of this width. -/
theorem complaints_of_namesPlaces (hwidth : m'.width = m.width) :
    m'.complaints entries = m.complaints entries := by
  induction entries generalizing m m' with
  | nil => rfl
  | cons r entries ih =>
    obtain ⟨hr, hentries⟩ := List.forall_mem_cons.mp h
    have hnext (m : Matrix) : (Stage.next ⟨r, m⟩).width = m.width := width_congr (r.map_length_onRows _ m)
    rw [complaints_cons, complaints_cons, Stage.complaints_congr hr hwidth,
      ih (m := Stage.next ⟨r, m⟩) (by rwa [hnext m]) (by rw [hnext, hnext, hwidth])]

end Matrix

/-- No column of a matrix of this width is named in both lists. -/
def NoneTwice (width : Nat) (first second : List Replacement) : Prop :=
  ∀ j < width,
    ¬ ((∃ r ∈ first, r.namesColumn width j = true) ∧ ∃ r ∈ second, r.namesColumn width j = true)

instance (width : Nat) (first second : List Replacement) : Decidable (NoneTwice width first second) :=
  inferInstanceAs (Decidable (∀ j < width, _))

/-- A cell goes through the replacements of one of the lists only, so either may come first. -/
theorem Matrix.replaced_comm {m : Matrix} {first second : List Replacement}
    (hfirst : ∀ r ∈ first, r.NamesPlaces m.width) (hsecond : ∀ r ∈ second, r.NamesPlaces m.width)
    (hnone : NoneTwice m.width first second) :
    (m.replaced first).replaced second = (m.replaced second).replaced first := by
  have hfirst' : ∀ r ∈ first, r.NamesPlaces (m.replaced second).width := by rwa [width_replaced]
  have hsecond' : ∀ r ∈ second, r.NamesPlaces (m.replaced first).width := by rwa [width_replaced]
  refine ext_cell (by simp only [map_length_replaced]) fun i j => ?_
  rw [cell_replaced_of_namesPlaces hsecond', cell_replaced_of_namesPlaces hfirst,
    cell_replaced_of_namesPlaces hfirst', cell_replaced_of_namesPlaces hsecond, width_replaced,
    width_replaced]
  have hnil : (first.filter fun r => decide (j < m.width) && r.namesColumn m.width j) = [] ∨
      (second.filter fun r => decide (j < m.width) && r.namesColumn m.width j) = [] := by
    simp only [List.filter_eq_nil_iff, Bool.and_eq_true, decide_eq_true_eq, not_and]
    by_cases hj : j < m.width
    · by_contra hboth
      push Not at hboth
      obtain ⟨⟨r, hr, -, hname⟩, r', hr', -, hname'⟩ := hboth
      exact hnone j hj ⟨⟨r, hr, hname⟩, r', hr', hname'⟩
    · exact .inl fun _ _ hlt => absurd hlt hj
  rcases hnil with hnil | hnil
  · rw [hnil]
    rfl
  · rw [hnil]
    rfl

/-! ### The rule -/

theorem exists_applyReplace_of_namesPlaces {s : RunState} {entries : List Replacement}
    (h : ∀ r ∈ entries, r.NamesPlaces s.matrix.width) :
    ∃ o, applyReplace s entries = .ok o ∧ o.aborts = false ∧
      o.state.matrix = s.matrix.replaced entries ∧ o.warnings = s.matrix.complaints entries := by
  refine ⟨_, applyReplace_eq_ok_iff.mpr ⟨fun t ht => ?_, rfl⟩, rfl, s.matrix_replaced entries, rfl⟩
  exact Stage.resolves_of_namesPlaces (Matrix.namesPlaces_of_mem_stages h ht)

/-- Two such rules one after the other.  Each complains as it would about the first worksheet. -/
theorem exists_run_of_namesPlaces {wb : Workbook} {s : RunState} (hs : RunState.initial? wb = some s)
    (firstId secondId : String) {first second : List Replacement}
    (hfirst : ∀ r ∈ first, r.NamesPlaces s.matrix.width)
    (hsecond : ∀ r ∈ second, r.NamesPlaces s.matrix.width) :
    let a : Rule := ⟨firstId, .replaceCharacters first⟩
    let b : Rule := ⟨secondId, .replaceCharacters second⟩
    ∃ oa ob r, run wb [a, b] = .ok r ∧ wb.log [a, b] = [⟨a, oa⟩, ⟨b, ob⟩] ∧
      r.matrix = (s.matrix.replaced first).replaced second ∧
      oa.warnings = s.matrix.complaints first ∧ ob.warnings = s.matrix.complaints second ∧
      r.warnings = oa.warnings.map a.label ++ ob.warnings.map b.label := by
  intro a b
  obtain ⟨oa, happly, hgoes, hmatrix, hwarnings⟩ := exists_applyReplace_of_namesPlaces hfirst
  have hwidth : oa.state.matrix.width = s.matrix.width := hmatrix ▸ Matrix.width_replaced _ _
  have hsecond' : ∀ r ∈ second, r.NamesPlaces oa.state.matrix.width := by rwa [hwidth]
  obtain ⟨ob, happly', hgoes', hmatrix', hwarnings'⟩ := exists_applyReplace_of_namesPlaces hsecond'
  obtain ⟨⟨r, hr, hresult, hall⟩, hlog⟩ := run_pair a b hs happly hgoes happly' hgoes'
  rw [hmatrix', hmatrix] at hresult
  rw [Matrix.complaints_of_namesPlaces hsecond hwidth] at hwarnings'
  exact ⟨oa, ob, r, hr, hlog, hresult, hwarnings, hwarnings', hall⟩

/-- **Replacements in different columns commute**, if the columns are named by their place.  In either order a
run leaves the same matrix, and each rule has the same warnings, though both may change header texts. -/
theorem run_replacements_comm (wb : Workbook) (firstId secondId : String)
    {first second : List Replacement} (hfirst : ∀ r ∈ first, r.NamesPlaces wb.firstSheet.width)
    (hsecond : ∀ r ∈ second, r.NamesPlaces wb.firstSheet.width)
    (hnone : NoneTwice wb.firstSheet.width first second) :
    let a : Rule := ⟨firstId, .replaceCharacters first⟩
    let b : Rule := ⟨secondId, .replaceCharacters second⟩
    (run wb [a, b]).map RunResult.matrix = (run wb [b, a]).map RunResult.matrix ∧
      (wb ≠ [] → ∃ oa ob oa' ob' r r', run wb [a, b] = .ok r ∧ run wb [b, a] = .ok r' ∧
        wb.log [a, b] = [⟨a, oa⟩, ⟨b, ob⟩] ∧ wb.log [b, a] = [⟨b, ob'⟩, ⟨a, oa'⟩] ∧
        oa'.warnings = oa.warnings ∧ ob'.warnings = ob.warnings ∧
        r.warnings = oa.warnings.map a.label ++ ob.warnings.map b.label ∧
        r'.warnings = ob.warnings.map b.label ++ oa.warnings.map a.label) := by
  intro a b
  cases hs : RunState.initial? wb with
  | none =>
    obtain rfl := RunState.eq_nil_of_initial? hs
    exact ⟨rfl, fun hne => absurd rfl hne⟩
  | some s =>
    rw [← RunState.matrix_of_initial? hs] at hfirst hsecond hnone
    obtain ⟨oa, ob, r, hr, hlog, hmatrix, ha, hb, hall⟩ :=
      exists_run_of_namesPlaces hs firstId secondId hfirst hsecond
    obtain ⟨ob', oa', r', hr', hlog', hmatrix', hb', ha', hall'⟩ :=
      exists_run_of_namesPlaces hs secondId firstId hsecond hfirst
    have hsame : r.matrix = r'.matrix := by
      rw [hmatrix, hmatrix', Matrix.replaced_comm hfirst hsecond hnone]
    have ha'' : oa'.warnings = oa.warnings := ha'.trans ha.symm
    have hb'' : ob'.warnings = ob.warnings := hb'.trans hb.symm
    rw [hb'', ha''] at hall'
    refine ⟨?_, fun _ => ⟨oa, ob, oa', ob', r, r', hr, hr', hlog, hlog', ha'', hb'', hall, hall'⟩⟩
    rw [hr, hr']
    exact congrArg Except.ok hsame

/-- Both rules change the header.  Behind the first of them the first column is headed `b`, which is the
letter code of the second. -/
theorem run_replacements_comm_headers :
    let wb : Workbook := [("A", [[.text "x", .text "x y"], [.text "xx", .text "y", .text "x"], []])]
    let first : List Replacement := [⟨"x", "b", .columns, some ["00", "7"], none⟩]
    let second : List Replacement := [⟨"y", "x", .columns, some [" b"], none⟩,
      ⟨"x", "", .columns, some ["1"], none⟩]
    let a : Rule := ⟨"p", .replaceCharacters first⟩
    let b : Rule := ⟨"q", .replaceCharacters second⟩
    (∀ r ∈ first, r.NamesPlaces wb.firstSheet.width) ∧ (∀ r ∈ second, r.NamesPlaces wb.firstSheet.width) ∧
      NoneTwice wb.firstSheet.width first second ∧
      (run wb [a, b]).map RunResult.matrix = (run wb [b, a]).map RunResult.matrix ∧
      (run wb [a, b]).map RunResult.matrix =
        .ok [[.text "b", .text " "], [.text "bb", .text "", .text "x"], []] ∧
      ∃ oa ob oa' ob', wb.log [a, b] = [⟨a, oa⟩, ⟨b, ob⟩] ∧ wb.log [b, a] = [⟨b, ob'⟩, ⟨a, oa'⟩] ∧
        oa'.warnings = oa.warnings ∧ ob'.warnings = ob.warnings ∧
        oa.warnings = ["Column \"7\" is out of range (matrix has 3 columns)"] := by
  intro wb first second a b
  have hfirst : ∀ r ∈ first, r.NamesPlaces wb.firstSheet.width := by decide
  have hsecond : ∀ r ∈ second, r.NamesPlaces wb.firstSheet.width := by decide
  have hnone : NoneTwice wb.firstSheet.width first second := by decide
  obtain ⟨hsame, hlogs⟩ := run_replacements_comm wb "p" "q" hfirst hsecond hnone
  obtain ⟨oa, ob, oa', ob', -, -, -, -, hlog, hlog', ha, hb, -⟩ := hlogs (List.cons_ne_nil _ _)
  have hwarnings := congrArg (fun log => log.head?.map fun e => e.outcome.warnings) hlog
  exact ⟨hfirst, hsecond, hnone, hsame, hsame.trans rfl, oa, ob, oa', ob', hlog, hlog', ha, hb,
    (Option.some.inj hwarnings).symm⟩

end Sheetflow
