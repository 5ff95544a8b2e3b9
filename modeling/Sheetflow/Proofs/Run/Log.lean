import Sheetflow.Proofs.Run.Invariant

/-!
# The log of a run

`Workbook.log` has an entry for every rule that a run applies: the rule and its outcome.  Only the last
entry can be of a rule that ends the run.  The descriptions and warnings of a result are those of the
entries one behind the other, and if the run was ended, a notice of how many rules were left out
(`loggedBy_of_run`).  So what a rule contributes to a result can be told apart from what others do.
-/

namespace Sheetflow

/-- A rule that was applied, and its outcome. -/
structure LogEntry where
  rule : Rule
  outcome : Outcome

namespace LogEntry

/-- The warnings that a rule contributes. -/
def warnings (e : LogEntry) : List String := e.outcome.warnings.map e.rule.label

/-- The notice that a rule ended the run with `skipped` rules left. -/
def notice (skipped : Nat) (e : LogEntry) : List String :=
  if e.outcome.aborts then [e.rule.label (Progress.abortNotice skipped)] else []

end LogEntry

/-- The log of rules, as far as they are applied. -/
def RunState.log (s : RunState) : List Rule → List LogEntry
  | [] => []
  | rule :: rest =>
    match rule.apply s with
    | .error _ => []
    | .ok o => ⟨rule, o⟩ :: if o.aborts then [] else o.state.log rest

/-- The log of a run. -/
def Workbook.log (wb : Workbook) (rules : List Rule) : List LogEntry :=
  match RunState.initial? wb with
  | none => []
  | some s => s.log rules

theorem Workbook.log_of_initial? {wb : Workbook} {s : RunState} (h : RunState.initial? wb = some s)
    (rules : List Rule) : wb.log rules = s.log rules := by
  rw [log, h]

/-- The result of a run on `rules` is told by its log. -/
structure LoggedBy (log : List LogEntry) (rules : List Rule) (r : RunResult) : Prop where
  inOrder : log.map LogEntry.rule <+: rules
  complete : r.aborted = false → log.map LogEntry.rule = rules
  aborted : r.aborted = log.any fun e => e.outcome.aborts
  applied : r.applied = (log.filter fun e => !e.outcome.aborts).map fun e => e.outcome.description
  warnings : r.warnings =
    log.flatMap LogEntry.warnings ++ log.flatMap (LogEntry.notice (rules.length - log.length))

/-! ### One rule more -/

section
variable {s : RunState} {rule : Rule} {o : Outcome}

theorem RunState.log_cons_of_aborts (h : rule.apply s = .ok o) (ha : o.aborts = true)
    (rest : List Rule) : s.log (rule :: rest) = [⟨rule, o⟩] := by
  simp only [log, h, ha, if_true]

theorem RunState.log_cons_of_goes_on (h : rule.apply s = .ok o) (ha : o.aborts = false)
    (rest : List Rule) : s.log (rule :: rest) = ⟨rule, o⟩ :: o.state.log rest := by
  simp only [log, h, ha, Bool.false_eq_true, if_false]

end

/-! ### All rules -/

theorem RunState.rules_log (s : RunState) (rules : List Rule) :
    (s.log rules).map LogEntry.rule <+: rules := by
  induction rules generalizing s with
  | nil => exact List.nil_prefix
  | cons rule rest ih =>
    rw [log]
    cases rule.apply s with
    | error e => exact List.nil_prefix
    | ok o =>
      refine List.cons_prefix_cons.mpr ⟨rfl, ?_⟩
      by_cases ha : o.aborts = true
      · rw [if_pos ha]
        exact List.nil_prefix
      · rw [if_neg ha]
        exact ih o.state

namespace Progress
variable {p : Progress} {rules : List Rule} {r : RunResult}

theorem rules_log_of_run (h : p.run rules = .ok r) (ha : r.aborted = false) :
    (p.state.log rules).map LogEntry.rule = rules := by
  induction rules generalizing p with
  | nil => rfl
  | cons rule rest ih =>
    obtain ⟨o, ho, ⟨-, rfl⟩ | ⟨hb, h⟩⟩ := run_cons_cases h
    · cases ha
    · rw [RunState.log_cons_of_goes_on ho hb, List.map_cons]
      exact congrArg (rule :: ·) (ih h)

/-- What a run adds to the logs that it has. -/
theorem logs_of_run (h : p.run rules = .ok r) :
    (r.aborted = (p.state.log rules).any fun e => e.outcome.aborts) ∧
      r.applied = p.applied ++
        ((p.state.log rules).filter fun e => !e.outcome.aborts).map (fun e => e.outcome.description) ∧
      r.warnings = p.warnings ++ ((p.state.log rules).flatMap LogEntry.warnings ++
        (p.state.log rules).flatMap (LogEntry.notice (rules.length - (p.state.log rules).length))) := by
  induction rules generalizing p with
  | nil =>
    obtain rfl := Except.ok.inj h
    simp [RunState.log, finish]
  | cons rule rest ih =>
    obtain ⟨o, ho, ⟨hb, rfl⟩ | ⟨hb, h⟩⟩ := run_cons_cases h
    · rw [RunState.log_cons_of_aborts ho hb]
      simp [abort, hb, LogEntry.warnings, LogEntry.notice]
    · obtain ⟨h1, h2, h3⟩ := ih h
      rw [RunState.log_cons_of_goes_on ho hb, h1, h2, h3]
      have hnotice (skipped : Nat) : LogEntry.notice skipped ⟨rule, o⟩ = [] := by
        simp [LogEntry.notice, hb]
      simp [add, hb, hnotice, LogEntry.warnings]

end Progress

/-! ### Two rules -/

/-- Two rules that do not end a run, one after the other. -/
theorem run_pair {wb : Workbook} {s : RunState} (first second : Rule) {o o' : Outcome}
    (hs : RunState.initial? wb = some s) (h : first.apply s = .ok o) (ha : o.aborts = false)
    (h' : second.apply o.state = .ok o') (ha' : o'.aborts = false) :
    (∃ r, run wb [first, second] = .ok r ∧ r.matrix = o'.state.matrix ∧
        r.warnings = o.warnings.map first.label ++ o'.warnings.map second.label) ∧
      wb.log [first, second] = [⟨first, o⟩, ⟨second, o'⟩] := by
  have hpath : Along wb [first, second] _ := ((Along.start hs).step h ha).step h' ha'
  refine ⟨⟨_, hpath.run_eq, rfl, rfl⟩, ?_⟩
  rw [Workbook.log_of_initial? hs, RunState.log_cons_of_goes_on h ha, RunState.log_cons_of_goes_on h' ha']
  rfl

/-! ### Results -/

/-- **The result of a run is told by its log.** -/
theorem loggedBy_of_run {wb : Workbook} {rules : List Rule} {r : RunResult}
    (h : run wb rules = .ok r) : LoggedBy (wb.log rules) rules r := by
  obtain ⟨s, hs, hrun⟩ := exists_initial_of_run h
  obtain ⟨h1, h2, h3⟩ := Progress.logs_of_run hrun
  rw [Workbook.log_of_initial? hs]
  exact ⟨s.rules_log rules, Progress.rules_log_of_run hrun, h1, h2, h3⟩

end Sheetflow
