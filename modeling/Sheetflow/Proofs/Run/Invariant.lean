import Sheetflow.Proofs.Run.Paths

/-!
# The invariant of runs

`RunState.Sound wb s`: the worksheets of `s` have the names of those of `wb`, the
active one is among them, and the header map is that of its contents.  The start
is sound and every rule keeps soundness (`Rule.apply_sound`).

Along a path two more things stay true.  The names selected so far are those that
the rules on the path select (`Along.selected_eq`): which one that is depends on
the names of the worksheets only, and these never change.  And a rule touches at
most the worksheet that is active when it is applied (`Rule.apply_sheet?`), so a
worksheet that was never active holds what it held at the start
(`Along.sheet?_of_never_active`).
-/

namespace Sheetflow

namespace RunState

/-- What stays true of the state of a run on `wb`. -/
structure Sound (wb : Workbook) (s : RunState) : Prop where
  names : s.sheets.names = wb.names
  active : s.active ∈ wb.names
  headers : s.headers = .ofMatrix s.matrix

theorem sound_of_initial? {wb : Workbook} {s : RunState} (h : initial? wb = some s) :
    s.sheets = wb ∧ s.selected = [] ∧ s.Sound wb := by
  cases wb with
  | nil => cases h
  | cons e wb =>
    obtain rfl := Option.some.inj h
    refine ⟨rfl, rfl, rfl, List.mem_cons_self, ?_⟩
    rw [matrix, Workbook.sheet?_cons, if_pos rfl]
    rfl

theorem Sound.active_mem {wb : Workbook} {s : RunState} (h : s.Sound wb) :
    s.active ∈ s.sheets.names := h.names ▸ h.active

theorem Sound.withMatrix {wb : Workbook} {s : RunState} (h : s.Sound wb) (m : Matrix) :
    (s.withMatrix m).Sound wb := by
  refine ⟨?_, h.active, ?_⟩
  · rw [RunState.withMatrix, Workbook.names_setSheet]
    exact h.names
  · rw [RunState.withMatrix, matrix, Workbook.sheet?_setSheet_self h.active_mem]
    rfl

/-- What selecting a worksheet does. -/
theorem eq_of_select? {s t : RunState} {name : String} (h : s.select? name = some t) :
    ∃ m, s.sheets.sheet? name = some m ∧
      t = { s with active := name, headers := .ofMatrix m, selected := s.selected ++ [name] } := by
  obtain ⟨m, hm, ht⟩ := Option.map_eq_some_iff.mp h
  exact ⟨m, hm, ht.symm⟩

theorem Sound.select? {wb : Workbook} {s t : RunState} (h : s.Sound wb) {name : String}
    (ht : s.select? name = some t) : t.Sound wb := by
  obtain ⟨m, hm, rfl⟩ := eq_of_select? ht
  refine ⟨h.names, ?_, ?_⟩
  · rw [← h.names, ← Workbook.sheet?_isSome_iff, hm]
    rfl
  · rw [matrix, hm]
    rfl

end RunState

/-! ### One rule -/

section Rule

variable {wb : Workbook} {s : RunState} {rule : Rule} {o : Outcome}

/-- **Every rule keeps the invariant.** -/
theorem Rule.apply_sound (hs : s.Sound wb) (h : rule.apply s = .ok o) : o.state.Sound wb := by
  rcases Rule.apply_cases h with ⟨_, _, ht, _⟩ | ⟨_, he | ⟨m, he⟩, _⟩ | ⟨_, _, _, he⟩
  · exact hs.select? ht
  · rw [he]
    exact hs
  · rw [he]
    exact hs.withMatrix m
  · rw [he]
    exact hs

/-- A rule adds the worksheet that it selects to the selected ones. -/
theorem Rule.apply_selected (h : rule.apply s = .ok o) :
    o.state.selected = s.selected ++ (rule.selection? s.sheets.names).toList := by
  rcases Rule.apply_cases h with ⟨_, hn, ht, _⟩ | ⟨hn, he | ⟨m, he⟩, _⟩ | ⟨_, ha, _, he⟩
  · obtain ⟨m, _, he⟩ := RunState.eq_of_select? ht
    rw [he, hn]
    rfl
  · rw [he, hn, Option.toList_none, List.append_nil]
  · rw [he, hn, Option.toList_none, List.append_nil]
    rfl
  · rw [he, Rule.selection?, ha, Option.toList_none, List.append_nil]

/-- **A rule touches no worksheet but the active one.** -/
theorem Rule.apply_sheet? (h : rule.apply s = .ok o) {name : String} (hn : name ≠ s.active) :
    o.state.sheets.sheet? name = s.sheets.sheet? name := by
  rcases Rule.apply_cases h with ⟨_, _, ht, _⟩ | ⟨_, he | ⟨m, he⟩, _⟩ | ⟨_, _, _, he⟩
  · obtain ⟨m, _, he⟩ := RunState.eq_of_select? ht
    rw [he]
  · rw [he]
  · rw [he]
    exact Workbook.sheet?_setSheet_of_ne _ hn m
  · rw [he]

/-- A rule that ends the run leaves the state alone. -/
theorem Rule.apply_state_of_aborts (h : rule.apply s = .ok o) (ha : o.aborts = true) :
    o.state = s := by
  obtain ⟨_, _, _, rfl⟩ := Rule.outcome_of_aborts h ha
  rfl

end Rule

/-! ### Whole runs -/

namespace Along

variable {wb : Workbook} {rules : List Rule} {p : Progress}

theorem sound (h : Along wb rules p) : p.state.Sound wb := by
  induction h with
  | start hs => exact (RunState.sound_of_initial? hs).2.2
  | step _ ha _ ih => exact Rule.apply_sound ih ha

theorem selected_eq (h : Along wb rules p) :
    p.state.selected = rules.filterMap fun rule => rule.selection? wb.names := by
  induction h with
  | start hs => exact (RunState.sound_of_initial? hs).2.1
  | @step rules p rule o hp ha _ ih =>
    have hsel : o.state.selected = p.state.selected ++ (rule.selection? wb.names).toList :=
      hp.sound.names ▸ Rule.apply_selected ha
    rw [List.filterMap_append, ← ih]
    refine hsel.trans (congrArg (p.state.selected ++ ·) ?_)
    cases hr : rule.selection? wb.names <;> simp [hr]

theorem sheet?_of_never_active (h : Along wb rules p) {name : String}
    (hn : ∀ before q, before <+: rules → before ≠ rules → Along wb before q →
      q.state.active ≠ name) :
    p.state.sheets.sheet? name = wb.sheet? name := by
  induction h with
  | start hs =>
    rw [← (RunState.sound_of_initial? hs).1]
    rfl
  | @step rules p rule o hp ha _ ih =>
    have hlast : p.state.active ≠ name :=
      hn rules p (List.prefix_append _ _) (by simp) hp
    refine (Rule.apply_sheet? ha (Ne.symm hlast)).trans (ih fun before q hb _ hq => ?_)
    refine hn before q (hb.trans (List.prefix_append _ _)) (fun he => ?_) hq
    have := hb.length_le
    rw [he, List.length_append, List.length_singleton] at this
    omega

/-- **What holds in every intermediate state of a run.**  The worksheets keep their names and order,
the active one is one of them and the header map is that of its contents; the selected names are
those that the rules so far select.  The rule that is applied next touches no worksheet other than
the active one, and nothing at all if it ends the run; and a worksheet that was not active when
any rule was applied is still the one of the input. -/
theorem state_invariant (h : Along wb rules p) :
    (∀ rest, run wb (rules ++ rest) = p.run rest) ∧
      p.state.active ∈ wb.names ∧
      p.state.sheets.names = wb.names ∧
      p.state.headers = .ofMatrix p.state.matrix ∧
      p.state.selected = rules.filterMap (fun rule => rule.selection? wb.names) ∧
      (∀ rule o, Rule.apply rule p.state = .ok o →
        (o.aborts = true → o.state = p.state) ∧ ∀ name, name ≠ p.state.active →
          o.state.sheets.sheet? name = p.state.sheets.sheet? name) ∧
      (∀ name, (∀ before q, before <+: rules → before ≠ rules → Along wb before q →
          q.state.active ≠ name) →
        p.state.sheets.sheet? name = wb.sheet? name) :=
  ⟨h.run_append, h.sound.active, h.sound.names, h.sound.headers, h.selected_eq,
    fun _ _ ha => ⟨Rule.apply_state_of_aborts ha, fun _ hn => Rule.apply_sheet? ha hn⟩,
    fun _ hn => h.sheet?_of_never_active hn⟩

/-- Selecting the second of three worksheets and deleting a row of it leaves the third alone. -/
theorem state_invariant_select_delete :
    let wb : Workbook := [("A", [[.text "x"]]), ("B", [[.text "y"], [.int 1]]), ("C", [[.int 2]])]
    let rules : List Rule := [⟨"s", .selectWorksheet .name "B"⟩,
      ⟨"d", .deleteRows (.byNumber [2] none)⟩]
    ∃ p, Along wb rules p ∧ p.state.active ∈ wb.names ∧ p.state.sheets.names = ["A", "B", "C"] ∧
      p.state.sheets.sheet? "B" = some [[.text "y"]] ∧ p.state.headers = [("y", 0)] ∧
      p.state.selected = ["B"] ∧ p.state.sheets.sheet? "C" = some [[.int 2]] := by
  intro wb rules
  have hselect : Along wb [⟨"s", .selectWorksheet .name "B"⟩] _ := (start rfl).step rfl rfl
  have hdelete : Along wb rules _ := hselect.step
    (show Rule.apply ⟨"d", .deleteRows (.byNumber [2] none)⟩ _ = .ok _ from rfl) rfl
  obtain ⟨-, hactive, hnames, hheaders, hselected, -, hnever⟩ := state_invariant hdelete
  refine ⟨_, hdelete, hactive, hnames, rfl, hheaders.trans (by decide),
    hselected.trans (by decide), ?_⟩
  refine hnever "C" fun before q hb hne hq => ?_
  -- the active worksheet behind fewer rules is the one that the run on them reports
  obtain rfl | rfl : before = [⟨"s", .selectWorksheet .name "B"⟩] ∨ before = [] := by
    rcases List.prefix_concat_iff.mp (show before <+: [_] ++ [_] from hb) with he | hb
    · exact absurd he hne
    · exact (List.prefix_concat_iff.mp (show before <+: [] ++ [_] from hb)).imp_right
        List.prefix_nil.mp
  · have hr : run wb [⟨"s", .selectWorksheet .name "B"⟩] = .ok _ := rfl
    have ha : q.state.active = "B" :=
      congrArg RunResult.activeSheet (Except.ok.inj (hq.run_eq.symm.trans hr))
    rw [ha]
    decide
  · have hr : run wb [] = .ok _ := rfl
    have ha : q.state.active = "A" :=
      congrArg RunResult.activeSheet (Except.ok.inj (hq.run_eq.symm.trans hr))
    rw [ha]
    decide

end Along

end Sheetflow
