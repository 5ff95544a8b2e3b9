import Sheetflow.Proofs.Run.Steps

/-!
# Paths of runs

A run begins at the first worksheet (`RunState.matrix_of_initial?`), and
`Along wb rules p` says where it stands behind some rules.  A run goes on
from there (`Along.run_append`), and a run that gives a result has either gone
along all its rules or was ended by one of them (`along_of_run`); so a fact
about every point on a path is a fact about every intermediate state of a run.
-/

namespace Sheetflow

/-- `Along wb rules p`: none of `rules`, applied to `wb` one after the other, ended the run, which
stands at `p` behind them. -/
inductive Along (wb : Workbook) : List Rule → Progress → Prop
  | start {s : RunState} : RunState.initial? wb = some s → Along wb [] (.start s)
  | step {rules : List Rule} {p : Progress} {rule : Rule} {o : Outcome} : Along wb rules p →
      rule.apply p.state = .ok o → o.aborts = false → Along wb (rules ++ [rule]) (p.add rule o)

namespace Progress

variable {p : Progress} {rule : Rule} {o : Outcome}

theorem run_cons_of_goes_on (ha : rule.apply p.state = .ok o) (hb : o.aborts = false)
    (rest : List Rule) : p.run (rule :: rest) = (p.add rule o).run rest := by
  simp only [run, ha, hb, Bool.false_eq_true, if_false]

theorem run_cons_of_aborts (ha : rule.apply p.state = .ok o) (hb : o.aborts = true)
    (rest : List Rule) : p.run (rule :: rest) = .ok (p.abort rule o rest.length) := by
  simp only [run, ha, hb, if_true]

/-- A run that gives a result applies its next rule, which ends it or not. -/
theorem run_cons_cases {rest : List Rule} {r : RunResult} (h : p.run (rule :: rest) = .ok r) :
    ∃ o, rule.apply p.state = .ok o ∧ (o.aborts = true ∧ r = p.abort rule o rest.length ∨
      o.aborts = false ∧ (p.add rule o).run rest = .ok r) := by
  cases ha : rule.apply p.state with
  | error e =>
    rw [run, ha] at h
    cases h
  | ok o =>
    refine ⟨o, rfl, ?_⟩
    cases hb : o.aborts with
    | true =>
      rw [run_cons_of_aborts ha hb] at h
      exact .inl ⟨rfl, (Except.ok.inj h).symm⟩
    | false =>
      rw [run_cons_of_goes_on ha hb] at h
      exact .inr ⟨rfl, h⟩

end Progress

/-! ### Beginnings -/

/-- The contents of the first worksheet. -/
def Workbook.firstSheet (wb : Workbook) : Matrix := (wb.head?.map (·.2)).getD []

theorem RunState.matrix_of_initial? {wb : Workbook} {s : RunState} (h : RunState.initial? wb = some s) :
    s.matrix = wb.firstSheet := by
  cases wb with
  | nil => cases h
  | cons e wb =>
    obtain rfl := Option.some.inj h
    rw [matrix, Workbook.sheet?_cons, if_pos rfl]
    rfl

theorem RunState.eq_nil_of_initial? {wb : Workbook} (h : RunState.initial? wb = none) : wb = [] := by
  cases wb with
  | nil => rfl
  | cons e wb => cases h

theorem run_of_initial? {wb : Workbook} {s : RunState} (h : RunState.initial? wb = some s)
    (rules : List Rule) : run wb rules = (Progress.start s).run rules := by
  rw [run, h]

theorem exists_initial_of_run {wb : Workbook} {rules : List Rule} {r : RunResult}
    (h : run wb rules = .ok r) :
    ∃ s, RunState.initial? wb = some s ∧ (Progress.start s).run rules = .ok r := by
  cases hs : RunState.initial? wb with
  | none =>
    rw [run, hs] at h
    cases h
  | some s => exact ⟨s, rfl, (run_of_initial? hs rules).symm.trans h⟩

/-! ### Paths -/

namespace Along

variable {wb : Workbook} {rules : List Rule} {p : Progress}

/-- Where a run stands is how it goes on. -/
theorem run_append (h : Along wb rules p) (rest : List Rule) :
    run wb (rules ++ rest) = p.run rest := by
  induction h generalizing rest with
  | start hs => exact run_of_initial? hs rest
  | step _ ha hb ih =>
    rw [List.append_assoc, List.singleton_append, ih, Progress.run_cons_of_goes_on ha hb]

theorem run_eq (h : Along wb rules p) : run wb rules = .ok p.finish := by
  rw [← List.append_nil rules, h.run_append]
  rfl

end Along

/-- How a run ends that goes on from a point on a path. -/
theorem Along.cases_of_run {wb : Workbook} {before : List Rule} {p : Progress} {rest : List Rule}
    {r : RunResult} (h : Along wb before p) (hr : p.run rest = .ok r) :
    (∃ q, Along wb (before ++ rest) q ∧ r = q.finish) ∨
      ∃ passed rule left q o, rest = passed ++ rule :: left ∧ Along wb (before ++ passed) q ∧
        rule.apply q.state = .ok o ∧ o.aborts = true ∧ r = q.abort rule o left.length := by
  induction rest generalizing before p with
  | nil =>
    rw [Progress.run] at hr
    exact .inl ⟨p, by rwa [List.append_nil], (Except.ok.inj hr).symm⟩
  | cons rule rest ih =>
    obtain ⟨o, ha, ⟨hb, he⟩ | ⟨hb, hr⟩⟩ := Progress.run_cons_cases hr
    · exact .inr ⟨[], rule, rest, p, o, rfl, by rwa [List.append_nil], ha, hb, he⟩
    · rcases ih (h.step ha hb) hr with ⟨q, hq, he⟩ | ⟨passed, r', left, q, o', h1, h2, h3, h4, h5⟩
      · exact .inl ⟨q, by rwa [List.append_assoc] at hq, he⟩
      · refine .inr ⟨rule :: passed, r', left, q, o', by rw [h1]; rfl, ?_, h3, h4, h5⟩
        rwa [List.append_assoc] at h2

/-- **A run that gives a result has either passed all rules or was ended by one of them.** -/
theorem along_of_run {wb : Workbook} {rules : List Rule} {r : RunResult}
    (h : run wb rules = .ok r) :
    (∃ p, Along wb rules p ∧ r = p.finish) ∨
      ∃ before rule after p o, rules = before ++ rule :: after ∧ Along wb before p ∧
        rule.apply p.state = .ok o ∧ o.aborts = true ∧ r = p.abort rule o after.length := by
  obtain ⟨s, hs, hrun⟩ := exists_initial_of_run h
  simpa using (Along.start hs).cases_of_run hrun

namespace Along

variable {wb : Workbook} {rules : List Rule} {p : Progress}

theorem length_applied (h : Along wb rules p) : p.applied.length = rules.length := by
  induction h with
  | start _ => rfl
  | step _ _ _ ih => simp [Progress.add, ih]

/-- **The logs of a run grow**: behind fewer rules it had a beginning of what it has now. -/
theorem exists_of_prefix (h : Along wb rules p) {before : List Rule} (hb : before <+: rules) :
    ∃ q, Along wb before q ∧ q.applied <+: p.applied ∧ q.warnings <+: p.warnings := by
  induction h with
  | start hs =>
    obtain rfl := List.prefix_nil.mp hb
    exact ⟨_, .start hs, List.prefix_rfl, List.prefix_rfl⟩
  | @step rules p rule o hp ha hn ih =>
    rcases List.prefix_concat_iff.mp hb with rfl | hb
    · exact ⟨_, hp.step ha hn, List.prefix_rfl, List.prefix_rfl⟩
    · obtain ⟨q, hq, h1, h2⟩ := ih hb
      exact ⟨q, hq, h1.trans (List.prefix_append _ _), h2.trans (List.prefix_append _ _)⟩

end Along

end Sheetflow
