import Sheetflow.Proofs.Matrix
import Sheetflow.Proofs.Run.Paths
import Sheetflow.Proofs.Service.Failure
import Sheetflow.Proofs.Text.Utf8

/-!
# How runs end

A run ends early at the first rule that is a check saying stop whose expected
number of columns is not that of the worksheet that is active by then
(`StopsAt`), and at no other.  `run_of_stopsAt` says what such a run gives in
terms of the run on the rules before, `run_of_never_stops` what a run gives that
passes all its rules; `run_stops_or_finishes` puts both together.

The last warning but one of a run that ended early is the mismatch that ended
it, and this is what becomes the message of the job (`abortReason_append`).
-/

namespace Sheetflow

/-- The rule with index `k` is a check that says stop, and what the rules before it make of the
active worksheet does not have the expected number of columns. -/
def StopsAt (wb : Workbook) (rules : List Rule) (k : Nat) : Prop :=
  ∃ before rule expected, run wb (rules.take k) = .ok before ∧ rules[k]? = some rule ∧
    rule.action = .validateColumns expected .stop ∧ before.matrix.headerWidth ≠ expected

theorem Rule.outcome_of_stops {rule : Rule} {s : RunState} {o : Outcome} {expected : Nat}
    (h : rule.apply s = .ok o) (ha : rule.action = .validateColumns expected .stop)
    (hw : s.matrix.headerWidth ≠ expected) :
    o = ⟨s, mismatchMessage expected s.matrix.headerWidth,
      [mismatchMessage expected s.matrix.headerWidth], true, none⟩ := by
  simp only [Rule.apply, ha] at h
  rcases applyValidate_cases h with ⟨-, -, ho⟩ | ⟨-, hn⟩
  · exact ho
  · exact absurd ⟨rfl, hw⟩ hn

section

variable {wb : Workbook} {rules : List Rule} {r : RunResult}

/-- A run that a rule ends stops at that rule. -/
theorem stopsAt_of_aborts {before : List Rule} {rule : Rule} {p : Progress} {o : Outcome}
    (hp : Along wb before p) (h : rule.apply p.state = .ok o) (ha : o.aborts = true)
    (after : List Rule) : StopsAt wb (before ++ rule :: after) before.length := by
  obtain ⟨expected, haction, hw, -⟩ := Rule.outcome_of_aborts h ha
  exact ⟨p.finish, rule, expected, by rw [List.take_left, hp.run_eq], by simp, haction, hw⟩

/-- **A run stops at the first rule that stops**, with the log of the rules before it and two more
warnings. -/
theorem run_of_stopsAt {k : Nat} (h : run wb rules = .ok r) (hk : StopsAt wb rules k)
    (hfirst : ∀ j < k, ¬ StopsAt wb rules j) :
    ∃ before rule expected, run wb (rules.take k) = .ok before ∧ rules[k]? = some rule ∧
      rule.action = .validateColumns expected .stop ∧ before.matrix.headerWidth ≠ expected ∧
      before.aborted = false ∧
      run wb rules = .ok
        { matrix := [], applied := before.applied,
          warnings := before.warnings ++
            [rule.label (mismatchMessage expected before.matrix.headerWidth),
              rule.label (Progress.abortNotice (rules.length - (k + 1)))],
          rowCount := 0, columnCount := 0, aborted := true, activeSheet := before.activeSheet,
          notices := before.notices } := by
  obtain ⟨before, rule, expected, hrun, hrule, haction, hw⟩ := hk
  rcases along_of_run hrun with ⟨p, hp, rfl⟩ | ⟨passed, rule', left, p, o, hsplit, hp, ho, ha, -⟩
  · have hsplit : rules = rules.take k ++ rule :: rules.drop (k + 1) := by
      obtain ⟨hlt, rfl⟩ := List.getElem?_eq_some_iff.mp hrule
      rw [List.getElem_cons_drop, List.take_append_drop]
    refine ⟨p.finish, rule, expected, hrun, hrule, haction, hw, rfl, ?_⟩
    rw [hsplit, hp.run_append] at h
    cases happly : rule.apply p.state with
    | error e => rw [Progress.run, happly] at h; cases h
    | ok o =>
      obtain rfl := Rule.outcome_of_stops happly haction hw
      conv => lhs; rw [hsplit]
      rw [hp.run_append, Progress.run_cons_of_aborts happly rfl, List.length_drop]
      simp [Progress.abort, Progress.finish]
  · -- a rule before `k` ends the run on the rules before `k`, so it stops the whole run as well
    have hlen : passed.length < k := by
      have := congrArg List.length hsplit
      rw [List.length_take, List.length_append, List.length_cons] at this
      omega
    have hstop := stopsAt_of_aborts hp ho ha (left ++ rules.drop k)
    rw [← List.cons_append, ← List.append_assoc, ← hsplit, List.take_append_drop] at hstop
    exact absurd hstop (hfirst _ hlen)

/-- **A run without a rule that stops passes all its rules**, and its logs only grow. -/
theorem run_of_never_stops (h : run wb rules = .ok r) (hn : ∀ k, ¬ StopsAt wb rules k) :
    r.aborted = false ∧ r.applied.length = rules.length ∧ r.rowCount = r.matrix.length ∧
      r.columnCount = r.matrix.width ∧
      ∀ before, before <+: rules → ∃ b, run wb before = .ok b ∧ b.applied <+: r.applied ∧
        b.warnings <+: r.warnings := by
  rcases along_of_run h with ⟨p, hp, rfl⟩ | ⟨before, rule, after, p, o, rfl, hp, ho, ha, -⟩
  · refine ⟨rfl, hp.length_applied, rfl, rfl, fun before hb => ?_⟩
    obtain ⟨q, hq, h1, h2⟩ := hp.exists_of_prefix hb
    exact ⟨q.finish, hq.run_eq, h1, h2⟩
  · exact absurd (stopsAt_of_aborts hp ho ha after) (hn _)

end

/-! ### The reason of an abort -/

theorem abortReason_append {r : RunResult} {warnings : List String} {reason notice : String}
    (h : r.warnings = warnings ++ [reason, notice]) : r.abortReason = reason := by
  rw [RunResult.abortReason, h, if_pos (by simp)]
  simp

/-! ### The two ends of a run -/

/-- **How every run ends that gives a result.**  At the first rule that stops, if there is one: the
output is empty, the log and the active worksheet are those of the run on the rules before, two
warnings are added, and the first of them is what the job of this run is marked as failed with, and
what it ends with if nobody else writes to it.
Otherwise behind the last rule, with one description for each rule, the size of the output, and
logs that continue those of the run on fewer rules. -/
theorem run_stops_or_finishes [Host] {wb : Workbook} {rules : List Rule} {r : RunResult}
    (h : run wb rules = .ok r) :
    (∀ k, StopsAt wb rules k → (∀ j < k, ¬ StopsAt wb rules j) →
      ∃ before rule expected, run wb (rules.take k) = .ok before ∧ rules[k]? = some rule ∧
        rule.action = .validateColumns expected .stop ∧ before.matrix.headerWidth ≠ expected ∧
        before.aborted = false ∧
        r.aborted = true ∧ r.matrix = [] ∧ r.rowCount = 0 ∧ r.columnCount = 0 ∧
        r.applied = before.applied ∧ r.activeSheet = before.activeSheet ∧
        r.warnings = before.warnings ++
          [rule.label (mismatchMessage expected before.matrix.headerWidth),
            rule.label (Progress.abortNotice (rules.length - (k + 1)))] ∧
        (∀ (j : Job) (c : Configuration) (fileName : String),
          Submission.finish j c fileName r = do
            let failed ← Submission.markFailed j ("Transformation aborted: " ++
              rule.label (mismatchMessage expected before.matrix.headerWidth)) (some (r.log []))
            return (false, ⟨failed, some r, none⟩)) ∧
        ∀ (w : World) (j stored : Job) (c : Configuration) (file : File) (fileName : String),
          w.OnlyFails → w.store.jobs.get? j.id = some stored → stored.status = .processing →
          c.transform file fileName = .ok r →
          ∃ w' failed, Service.exec (Submission.execute j c file fileName) w =
              (w', .ok ⟨failed, some r, none⟩) ∧
            failed.errorMessage = some ("Transformation aborted: " ++
              rule.label (mismatchMessage expected before.matrix.headerWidth))) ∧
      ((∀ k, ¬ StopsAt wb rules k) →
        r.aborted = false ∧ r.applied.length = rules.length ∧ r.rowCount = r.matrix.length ∧
        (∀ row ∈ r.matrix, row.length ≤ r.columnCount) ∧
        (r.matrix = [] → r.columnCount = 0) ∧
        (r.matrix ≠ [] → ∃ row ∈ r.matrix, row.length = r.columnCount) ∧
        ∀ before, before <+: rules → ∃ b, run wb before = .ok b ∧ b.applied <+: r.applied ∧
          b.warnings <+: r.warnings) := by
  constructor
  · intro k hk hfirst
    obtain ⟨before, rule, expected, hrun, hrule, haction, hw, hpassed, hr⟩ :=
      run_of_stopsAt h hk hfirst
    obtain rfl := Except.ok.inj (h.symm.trans hr)
    refine ⟨before, rule, expected, hrun, hrule, haction, hw, hpassed, rfl, rfl, rfl, rfl, rfl, rfl,
      rfl, fun j c fileName => ?_, ?_⟩
    · rw [Submission.finish, if_pos rfl, abortReason_append rfl]
    · intro w j stored c file fileName hw' hj hs hc
      obtain ⟨w', failed, he, hm⟩ := Submission.exec_execute_of_aborted hw' hj hs hc rfl
      exact ⟨w', failed, he, by rw [hm, abortReason_append rfl]⟩
  · intro hn
    obtain ⟨h1, h2, h3, h4, h5⟩ := run_of_never_stops h hn
    rw [h4]
    refine ⟨h1, h2, h3, fun row hrow => Matrix.length_le_width hrow, fun he => ?_,
      Matrix.exists_length_eq_width, h5⟩
    rw [he]
    rfl

section
attribute [local instance] Host.bare

/-- A check that says stop ends a run behind another rule and fails the job that made the run; with
a notice instead, the run passes all rules. -/
theorem run_stops_or_finishes_both :
    let wb : Workbook := [("orders", [[.text "a", .text "b"], [.text "1"]])]
    let stopped : List Rule := [⟨"e", .evaluateFormulas true⟩, ⟨"v", .validateColumns 5 .stop⟩,
      ⟨"d", .deleteColumns ["A"]⟩]
    let passed : List Rule := [⟨"v", .validateColumns 5 .notify⟩, ⟨"d", .deleteColumns ["A"]⟩]
    let time := DateTime.ofInstant 0
    let job : Job := ⟨"job_1", "org", "cfg_1", .processing, some "orders.csv", some 5, time,
      some time, none, none, none, none, none, none⟩
    let world : World := { clock := 0, store := { jobs := [("job_1", job)] } }
    let configuration : Configuration :=
      ⟨"cfg_1", "org", "check", none, stopped, {}, 1, true, none, none⟩
    (∃ r, run wb stopped = .ok r ∧ StopsAt wb stopped 1 ∧ (∀ j < 1, ¬ StopsAt wb stopped j) ∧
      r.aborted = true ∧ r.matrix = [] ∧
      ∃ w' failed, Service.exec (Submission.execute job configuration
          ⟨Text.Utf8.encode "a,b\n1".toList⟩ "orders.csv") world =
          (w', .ok ⟨failed, some r, none⟩) ∧
        failed.errorMessage = some ("Transformation aborted: " ++
          "VALIDATE_COLUMNS (v): Column count mismatch: expected 5, found 2")) ∧
      ∃ r, run wb passed = .ok r ∧ (∀ k, ¬ StopsAt wb passed k) ∧ r.aborted = false ∧
        r.applied.length = 2 := by
  intro wb stopped passed time job world configuration
  refine ⟨?_, ?_⟩
  · obtain ⟨r, hrun⟩ : ∃ r, run wb stopped = .ok r := ⟨_, rfl⟩
    have hstop : StopsAt wb stopped 1 := ⟨_, _, 5, rfl, rfl, rfl, by decide⟩
    have hfirst : ∀ j < 1, ¬ StopsAt wb stopped j := by
      intro j hj
      obtain rfl : j = 0 := by omega
      rintro ⟨_, _, _, _, hr, ha, _⟩
      obtain rfl := Option.some.inj hr
      cases ha
    have hread : configuration.transform ⟨Text.Utf8.encode "a,b\n1".toList⟩ "orders.csv" =
        .ok r := by
      have hkind : FileName.kind? "orders.csv" = some .delimited := by decide
      have hstem : FileName.stem "orders.csv" = "orders" := by decide
      have htext : File.textOf (Text.Utf8.encode "a,b\n1".toList) = "a,b\n1".toList := by
        unfold File.textOf
        rw [Text.Utf8.decodeMarked_encode (by decide)]
      unfold Configuration.transform File.readWorkbook File.readDelimited
      simp only [hkind, hstem, htext]
      exact congrArg (Except.mapError _) hrun
    obtain ⟨before, rule, expected, h1, h2, h3, h4, h5, h6, h7, h8, h9, h10, h11, h12, -, h13⟩ :=
      (run_stops_or_finishes hrun).1 1 hstop hfirst
    refine ⟨_, hrun, hstop, hfirst, h6, h7, ?_⟩
    obtain ⟨w', failed, he, hm⟩ := h13 world job job configuration _ _ ⟨rfl, nofun⟩ rfl rfl hread
    obtain rfl := Except.ok.inj (h1.symm.trans (show run wb (stopped.take 1) = .ok _ from rfl))
    obtain rfl := Option.some.inj h2
    obtain ⟨rfl, -⟩ := Action.validateColumns.inj h3
    exact ⟨w', failed, he, hm⟩
  · obtain ⟨r, hrun⟩ : ∃ r, run wb passed = .ok r := ⟨_, rfl⟩
    have hn : ∀ k, ¬ StopsAt wb passed k := by
      rintro k ⟨_, rule, _, _, hr, ha, _⟩
      match k, hr with
      | 0, hr =>
        obtain rfl := Option.some.inj hr
        cases ha
      | 1, hr =>
        obtain rfl := Option.some.inj hr
        cases ha
    obtain ⟨h1, h2, -⟩ := (run_stops_or_finishes hrun).2 hn
    exact ⟨_, hrun, hn, h1, h2⟩

end

end Sheetflow
