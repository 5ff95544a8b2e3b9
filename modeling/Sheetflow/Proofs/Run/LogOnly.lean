import Sheetflow.Proofs.Run.Log

/-!
# Rules that only write to the log

A note about formulas and a check of the number of columns that does not say stop leave the state as it is
and never end a run (`Rule.apply_of_isLogOnly`).  So a run without them goes from state to state as the run
with them does: it has the same output, and its log is that of the run with them without their entries
(`Progress.run_keptRules`).
-/

namespace Sheetflow

/-- Does the rule say something and do nothing?  Notes about formulas do so, and checks that do not say
stop. -/
def Rule.isLogOnly (rule : Rule) : Bool :=
  match rule.action with
  | .evaluateFormulas _ => true
  | .validateColumns _ onMismatch => onMismatch ≠ .stop
  | _ => false

/-- The rules that do something, or may end the run. -/
def keptRules (rules : List Rule) : List Rule := rules.filter fun rule => !rule.isLogOnly

/-- What runs put out beside their logs is the same. -/
structure RunResult.SameOutput (r other : RunResult) : Prop where
  matrix : r.matrix = other.matrix
  rowCount : r.rowCount = other.rowCount
  columnCount : r.columnCount = other.columnCount
  aborted : r.aborted = other.aborted
  activeSheet : r.activeSheet = other.activeSheet

theorem keptRules_cons (rule : Rule) (rest : List Rule) :
    keptRules (rule :: rest) = if rule.isLogOnly then keptRules rest else rule :: keptRules rest := by
  rw [keptRules, List.filter_cons]
  cases rule.isLogOnly <;> rfl

theorem Rule.apply_of_isLogOnly {rule : Rule} {s : RunState} {o : Outcome} (h : rule.isLogOnly = true)
    (ha : rule.apply s = .ok o) : o.state = s ∧ o.aborts = false := by
  obtain ⟨id, action⟩ := rule
  cases action with
  | evaluateFormulas enabled =>
    obtain rfl := Except.ok.inj ha
    exact ⟨rfl, rfl⟩
  | validateColumns expected onMismatch =>
    obtain ⟨hstop, -⟩ | ⟨hlocal, -⟩ := applyValidate_cases ha
    · exact absurd hstop (of_decide_eq_true h)
    · exact ⟨applyValidate_state ha, hlocal.2⟩
  | _ => cases h

/-- From a point with the same state, whatever its logs are, the other rules lead to the same output, and
they have the entries that they have in the whole log. -/
theorem Progress.run_keptRules {p q : Progress} {rules : List Rule} {r : RunResult}
    (h : p.run rules = .ok r) (hstate : q.state = p.state) :
    (∃ r', q.run (keptRules rules) = .ok r' ∧ r'.SameOutput r) ∧
      q.state.log (keptRules rules) = (p.state.log rules).filter fun e => !e.rule.isLogOnly := by
  induction rules generalizing p q with
  | nil =>
    obtain rfl := Except.ok.inj h
    refine ⟨⟨q.finish, rfl, ?_⟩, rfl⟩
    simp only [finish, hstate]
    exact ⟨rfl, rfl, rfl, rfl, rfl⟩
  | cons rule rest ih =>
    obtain ⟨o, ho, hend⟩ := run_cons_cases h
    rw [keptRules_cons]
    by_cases hlog : rule.isLogOnly = true
    · obtain ⟨hsame, hgoes⟩ := Rule.apply_of_isLogOnly hlog ho
      obtain ⟨hb, -⟩ | ⟨-, h⟩ := hend
      · rw [hgoes] at hb
        cases hb
      · rw [if_pos hlog, RunState.log_cons_of_goes_on ho hgoes, List.filter_cons_of_neg (by simp [hlog])]
        exact ih h (hstate.trans hsame.symm)
    · have ho' : rule.apply q.state = .ok o := hstate ▸ ho
      rw [if_neg hlog]
      obtain ⟨hb, rfl⟩ | ⟨hb, h⟩ := hend
      · rw [run_cons_of_aborts ho' hb, RunState.log_cons_of_aborts ho' hb,
          RunState.log_cons_of_aborts ho hb]
        exact ⟨⟨_, rfl, rfl, rfl, rfl, rfl, congrArg RunState.active hstate⟩, by simp [hlog]⟩
      · rw [run_cons_of_goes_on ho' hb, RunState.log_cons_of_goes_on ho' hb,
          RunState.log_cons_of_goes_on ho hb, List.filter_cons_of_pos (by simp [hlog])]
        obtain ⟨hrun, hentries⟩ := ih (q := q.add rule o) h rfl
        exact ⟨hrun, congrArg (_ :: ·) hentries⟩

/-- **Rules that only write to the log are transparent.**  Without them a run that gives a result gives one
with the same output.  Its log is that of the run with them without their entries, so the other rules have
the same descriptions and warnings in the same order; only the notice that the run was ended may count
fewer rules as left out. -/
theorem run_without_logOnly {wb : Workbook} {rules : List Rule} {r : RunResult}
    (h : run wb rules = .ok r) :
    ∃ r', run wb (keptRules rules) = .ok r' ∧ r'.SameOutput r ∧
      LoggedBy (wb.log rules) rules r ∧
      LoggedBy ((wb.log rules).filter fun e => !e.rule.isLogOnly) (keptRules rules) r' := by
  have hwhole := loggedBy_of_run h
  obtain ⟨s, hs, hrun⟩ := exists_initial_of_run h
  obtain ⟨⟨r', hrun', hsame⟩, hentries⟩ := Progress.run_keptRules hrun rfl
  have h' : run wb (keptRules rules) = .ok r' := (run_of_initial? hs _).trans hrun'
  have hlog : wb.log (keptRules rules) = (wb.log rules).filter fun e => !e.rule.isLogOnly := by
    rw [Workbook.log_of_initial? hs, Workbook.log_of_initial? hs]
    exact hentries
  exact ⟨r', h', hsame, hwhole, hlog ▸ loggedBy_of_run h'⟩

/-- A check that says stop ends both runs, and in the shorter one it leaves out one rule less. -/
theorem run_without_logOnly_stopped :
    let wb : Workbook := [("A", [[.text "a", .text "b"], [.text "1", .text "2"]])]
    let rules : List Rule := [⟨"e", .evaluateFormulas false⟩, ⟨"n", .validateColumns 5 .notify⟩,
      ⟨"d", .deleteColumns ["B", "x y"]⟩, ⟨"s", .validateColumns 2 .stop⟩,
      ⟨"c", .validateColumns 3 .continue_⟩, ⟨"r", .deleteRows (.byNumber [1] none)⟩]
    ∃ r r', run wb rules = .ok r ∧ run wb (keptRules rules) = .ok r' ∧ r'.SameOutput r ∧
      LoggedBy ((wb.log rules).filter fun e => !e.rule.isLogOnly) (keptRules rules) r' ∧
      r'.applied = ["Deleted 1 column(s)"] ∧
      r'.warnings = ["DELETE_COLUMNS (d): Column \"x y\" not found",
        "VALIDATE_COLUMNS (s): Column count mismatch: expected 2, found 1",
        "VALIDATE_COLUMNS (s): run aborted on column validation failure; 1 remaining rule(s) " ++
          "skipped and output emptied"] := by
  intro wb rules
  have hrun : run wb rules = .ok _ := rfl
  obtain ⟨r', hrun', hsame, -, hlogged⟩ := run_without_logOnly hrun
  have hkept : run wb (keptRules rules) = .ok _ := rfl
  obtain rfl := Except.ok.inj (hrun'.symm.trans hkept)
  exact ⟨_, _, hrun, hrun', hsame, hlogged, by decide, by decide⟩

end Sheetflow
