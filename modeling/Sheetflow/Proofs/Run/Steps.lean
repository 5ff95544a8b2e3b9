import Sheetflow.Run.Basic

/-!
# What one rule does

`Rule.apply_cases` lists all that applying a rule can do: make the worksheet
active that the rule selects, change at most the contents of the active
worksheet (`Outcome.IsLocal`), or end the run.  Each handler has one lemma that
says which of these it does, so that facts about runs are proved from three
cases and never from the eight handlers.
-/

namespace Sheetflow

/-! ### Worksheets by name -/

namespace Workbook

theorem sheet?_cons (e : String × Matrix) (wb : Workbook) (name : String) :
    sheet? (e :: wb) name = if name = e.1 then some e.2 else sheet? wb name := by
  obtain ⟨other, m⟩ := e
  rw [sheet?, List.lookup_cons]
  by_cases h : name = other
  · rw [beq_iff_eq.mpr h, if_pos h]
  · rw [beq_eq_false_iff_ne.mpr h, if_neg h, sheet?]

theorem sheet?_isSome_iff (wb : Workbook) (name : String) :
    (wb.sheet? name).isSome = true ↔ name ∈ wb.names := by
  induction wb with
  | nil => simp [sheet?, names]
  | cons e wb ih =>
    rw [sheet?_cons, names, List.map_cons, List.mem_cons, ← names, ← ih]
    by_cases h : name = e.1 <;> simp [h]

theorem sheet?_setSheet_self {wb : Workbook} {name : String} (h : name ∈ wb.names) (m : Matrix) :
    (wb.setSheet name m).sheet? name = some m := by
  induction wb with
  | nil => cases h
  | cons e wb ih =>
    rw [setSheet, List.map_cons, ← setSheet, sheet?_cons]
    by_cases he : e.1 = name
    · rw [if_pos he, if_pos he.symm]
    · rw [if_neg he, if_neg (Ne.symm he)]
      exact ih ((List.mem_cons.mp h).resolve_left (Ne.symm he))

theorem sheet?_setSheet_of_ne (wb : Workbook) {name other : String} (h : other ≠ name)
    (m : Matrix) :
    (wb.setSheet name m).sheet? other = wb.sheet? other := by
  induction wb with
  | nil => rfl
  | cons e wb ih =>
    rw [setSheet, List.map_cons, ← setSheet, sheet?_cons, sheet?_cons, ih]
    by_cases he : e.1 = name
    · rw [if_pos he, if_neg (he ▸ h), if_neg (he ▸ h)]
    · rw [if_neg he]

end Workbook

theorem Workbook.setSheet_setSheet (wb : Workbook) (name : String) (m n : Matrix) :
    (wb.setSheet name m).setSheet name n = wb.setSheet name n := by
  simp only [setSheet, List.map_map]
  refine List.map_congr_left fun e _ => ?_
  by_cases he : e.1 = name
  · simp [he]
  · simp [he]

namespace RunState
variable {s : RunState}

/-- The active worksheet holds what it was given, unless it is not there. -/
theorem matrix_withMatrix {m : Matrix} (h : s.matrix = [] → m = []) : (s.withMatrix m).matrix = m := by
  show ((s.sheets.setSheet s.active m).sheet? s.active).getD [] = m
  by_cases hactive : s.active ∈ s.sheets.names
  · rw [Workbook.sheet?_setSheet_self hactive, Option.getD_some]
  · have hnone (wb : Workbook) (hwb : s.active ∉ wb.names) : wb.sheet? s.active = none := by
      rwa [← Workbook.sheet?_isSome_iff, Bool.not_eq_true, Option.isSome_eq_false_iff,
        Option.isNone_iff_eq_none] at hwb
    have hmatrix : s.matrix = [] := by
      rw [matrix, hnone _ hactive]
      rfl
    rw [hnone _ (by rwa [Workbook.names_setSheet]), h hmatrix]
    rfl

theorem withMatrix_withMatrix (s : RunState) (m n : Matrix) :
    (s.withMatrix m).withMatrix n = s.withMatrix n := by
  simp only [withMatrix, Workbook.setSheet_setSheet]

end RunState

/-! ### Selections -/

theorem RunState.select?_of_mem {s : RunState} {name : String} (h : name ∈ s.sheets.names) :
    ∃ t, s.select? name = some t := by
  rw [← Workbook.sheet?_isSome_iff, Option.isSome_iff_exists] at h
  obtain ⟨m, hm⟩ := h
  exact ⟨_, by rw [select?, hm]; rfl⟩

/-- The worksheet that a rule selects among worksheets of the given names. -/
def Rule.selection? (rule : Rule) (names : List String) : Option String :=
  match rule.action with
  | .selectWorksheet choice value =>
    match chooseSheet names choice value with
    | .ok (target, _) => target
    | .error _ => none
  | _ => none

theorem mem_of_chooseSheet {names : List String} {choice : SheetChoice} {value name : String}
    {warnings : List String} (h : chooseSheet names choice value = .ok (some name, warnings)) :
    name ∈ names := by
  unfold chooseSheet at h
  cases choice with
  | name =>
    simp only [Except.ok.injEq, Prod.mk.injEq] at h
    obtain ⟨h, -⟩ := h
    split at h
    · next hm => exact Option.some.inj h ▸ hm
    · cases h
  | index =>
    simp only [Except.ok.injEq, Prod.mk.injEq] at h
    obtain ⟨h, -⟩ := h
    split at h
    · split at h
      · exact List.mem_of_getElem? h
      · cases h
    · cases h
  | pattern =>
    simp only at h
    split at h
    · cases h
    · simp at h
    · simp only [Except.ok.injEq, Prod.mk.injEq] at h
      exact List.mem_of_find?_eq_some h.1

/-! ### The handlers -/

/-- The outcome leaves the state as it was, or replaces the contents of the active worksheet; the
run goes on. -/
def Outcome.IsLocal (o : Outcome) (s : RunState) : Prop :=
  (o.state = s ∨ ∃ m, o.state = s.withMatrix m) ∧ o.aborts = false

namespace Outcome

theorem isLocal_done (s : RunState) (description : String) (warnings : List String) :
    (done s description warnings).IsLocal s := ⟨.inl rfl, rfl⟩

theorem isLocal_done_withMatrix (s : RunState) (m : Matrix) (description : String)
    (warnings : List String) : (done (s.withMatrix m) description warnings).IsLocal s :=
  ⟨.inr ⟨m, rfl⟩, rfl⟩

end Outcome

section Handlers

variable {s : RunState} {o : Outcome}

theorem applySelect_cases {choice : SheetChoice} {value : String}
    (h : applySelect s choice value = .ok o) :
    (∃ name warnings, chooseSheet s.sheets.names choice value = .ok (some name, warnings) ∧
        s.select? name = some o.state ∧ o.aborts = false) ∨
      (∃ warnings, chooseSheet s.sheets.names choice value = .ok (none, warnings)) ∧
        o.IsLocal s := by
  rw [applySelect] at h
  cases hc : chooseSheet s.sheets.names choice value with
  | error e => rw [hc] at h; cases h
  | ok r =>
    obtain ⟨target, warnings⟩ := r
    rw [hc] at h
    cases target with
    | none =>
      obtain rfl := Except.ok.inj h
      exact .inr ⟨⟨warnings, rfl⟩, Outcome.isLocal_done _ _ _⟩
    | some name =>
      obtain ⟨t, ht⟩ := RunState.select?_of_mem (mem_of_chooseSheet hc)
      simp only [Option.bind_some, ht, Option.map_some] at h
      obtain rfl := Except.ok.inj h
      exact .inl ⟨name, warnings, rfl, ht, rfl⟩

/-- A check ends the run only if it says stop and the number of columns is not the expected one. -/
theorem applyValidate_cases {ruleId : String} {expected : Nat} {onMismatch : OnMismatch}
    (h : applyValidate s ruleId expected onMismatch = .ok o) :
    (onMismatch = .stop ∧ s.matrix.headerWidth ≠ expected ∧
        o = ⟨s, mismatchMessage expected s.matrix.headerWidth,
          [mismatchMessage expected s.matrix.headerWidth], true, none⟩) ∨
      (o.IsLocal s ∧ ¬ (onMismatch = .stop ∧ s.matrix.headerWidth ≠ expected)) := by
  unfold applyValidate at h
  by_cases hw : s.matrix.headerWidth = expected
  · rw [if_pos hw] at h
    obtain rfl := Except.ok.inj h
    exact .inr ⟨Outcome.isLocal_done _ _ _, fun hstop => hstop.2 hw⟩
  · rw [if_neg hw] at h
    split at h
    · obtain rfl := Except.ok.inj h
      cases onMismatch with
      | stop => exact .inl ⟨rfl, hw, rfl⟩
      | notify => exact .inr ⟨⟨.inl rfl, rfl⟩, nofun⟩
      | continue_ => exact .inr ⟨Outcome.isLocal_done _ _ _, nofun⟩
    · cases h

/-- A check leaves the state as it was, whatever it finds. -/
theorem applyValidate_state {ruleId : String} {expected : Nat} {onMismatch : OnMismatch}
    (h : applyValidate s ruleId expected onMismatch = .ok o) : o.state = s := by
  unfold applyValidate at h
  by_cases hw : s.matrix.headerWidth = expected
  · rw [if_pos hw] at h
    obtain rfl := Except.ok.inj h
    rfl
  · rw [if_neg hw] at h
    split at h
    · obtain rfl := Except.ok.inj h
      cases onMismatch <;> rfl
    · cases h

theorem applyFill_isLocal {columns : List String} {direction : Direction}
    (h : applyFill s columns direction = .ok o) : o.IsLocal s := by
  unfold applyFill at h
  split at h
  · cases h
  · obtain rfl := Except.ok.inj h
    exact Outcome.isLocal_done_withMatrix _ _ _ _

theorem applyDeleteRows_isLocal {rows : RowSelection} (h : applyDeleteRows s rows = .ok o) :
    o.IsLocal s := by
  cases rows with
  | byNumber numbers unused =>
    obtain rfl := Except.ok.inj h
    exact Outcome.isLocal_done_withMatrix _ _ _ _
  | byCondition c unused =>
    simp only [applyDeleteRows] at h
    split at h
    · cases h
    · split at h
      · obtain rfl := Except.ok.inj h
        exact Outcome.isLocal_done_withMatrix _ _ _ _
      · obtain rfl := Except.ok.inj h
        exact Outcome.isLocal_done _ _ _

theorem applyDeleteColumns_isLocal {columns : List String}
    (h : applyDeleteColumns s columns = .ok o) : o.IsLocal s := by
  unfold applyDeleteColumns at h
  split at h
  · cases h
  · split at h
    · obtain rfl := Except.ok.inj h
      exact Outcome.isLocal_done _ _ _
    · obtain rfl := Except.ok.inj h
      exact Outcome.isLocal_done_withMatrix _ _ _ _

theorem applyCombine_isLocal (s : RunState) (sources : List String) (how : Combination) :
    (applyCombine s sources how).IsLocal s := by
  unfold applyCombine
  by_cases hr : (if sources.isEmpty then s.selected else sources).isEmpty = true
  · rw [if_pos hr]
    exact Outcome.isLocal_done _ _ _
  · rw [if_neg hr]
    exact Outcome.isLocal_done_withMatrix _ _ _ _

theorem applyReplace_isLocal {replacements : List Replacement}
    (h : applyReplace s replacements = .ok o) : o.IsLocal s := by
  unfold applyReplace at h
  cases hr : replaceAll ⟨s.matrix, 0, []⟩ replacements with
  | error e => rw [hr] at h; cases h
  | ok acc =>
    rw [hr] at h
    obtain rfl := Except.ok.inj h
    exact Outcome.isLocal_done_withMatrix _ _ _ _

/-! ### All rules -/

/-- **Everything a rule can do**: make the worksheet active that it selects, or else change at most
the contents of the active one, or end the run and leave the state as it was. -/
theorem Rule.apply_cases {rule : Rule} (h : rule.apply s = .ok o) :
    (∃ name, rule.selection? s.sheets.names = some name ∧ s.select? name = some o.state ∧
        o.aborts = false) ∨
      (rule.selection? s.sheets.names = none ∧ o.IsLocal s) ∨
      (∃ expected, rule.action = .validateColumns expected .stop ∧
        s.matrix.headerWidth ≠ expected ∧
        o = ⟨s, mismatchMessage expected s.matrix.headerWidth,
          [mismatchMessage expected s.matrix.headerWidth], true, none⟩) := by
  obtain ⟨id, action⟩ := rule
  -- every kind of rule but the first two is local
  cases action with
  | selectWorksheet choice value =>
    simp only [Rule.selection?]
    rcases applySelect_cases h with ⟨name, warnings, hc, ht, ha⟩ | ⟨⟨warnings, hc⟩, hl⟩
    · exact .inl ⟨name, by rw [hc], ht, ha⟩
    · exact .inr (.inl ⟨by rw [hc], hl⟩)
  | validateColumns expected onMismatch =>
    rcases applyValidate_cases h with ⟨rfl, hw, ho⟩ | ⟨hl, -⟩
    · exact .inr (.inr ⟨expected, rfl, hw, ho⟩)
    · exact .inr (.inl ⟨rfl, hl⟩)
  | unmergeAndFill columns direction => exact .inr (.inl ⟨rfl, applyFill_isLocal h⟩)
  | deleteRows rows => exact .inr (.inl ⟨rfl, applyDeleteRows_isLocal h⟩)
  | deleteColumns columns => exact .inr (.inl ⟨rfl, applyDeleteColumns_isLocal h⟩)
  | combineWorksheets sources how =>
    obtain rfl := Except.ok.inj h
    exact .inr (.inl ⟨rfl, applyCombine_isLocal s sources how⟩)
  | evaluateFormulas enabled =>
    obtain rfl := Except.ok.inj h
    exact .inr (.inl ⟨rfl, Outcome.isLocal_done _ _ _⟩)
  | replaceCharacters replacements => exact .inr (.inl ⟨rfl, applyReplace_isLocal h⟩)

/-- Only a check that says stop ends a run; it leaves the state as it was, and a warning. -/
theorem Rule.outcome_of_aborts {rule : Rule} (h : rule.apply s = .ok o) (ha : o.aborts = true) :
    ∃ expected, rule.action = .validateColumns expected .stop ∧ s.matrix.headerWidth ≠ expected ∧
      o = ⟨s, mismatchMessage expected s.matrix.headerWidth,
        [mismatchMessage expected s.matrix.headerWidth], true, none⟩ := by
  rcases Rule.apply_cases h with ⟨_, _, _, hn⟩ | ⟨_, _, hn⟩ | h
  · rw [hn] at ha
    cases ha
  · rw [hn] at ha
    cases ha
  · exact h

end Handlers

end Sheetflow
