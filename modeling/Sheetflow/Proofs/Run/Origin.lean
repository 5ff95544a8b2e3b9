import Sheetflow.Proofs.Run.Invariant
import Sheetflow.Proofs.Run.Merge

/-!
# Where the cells of a run come from

Rules fill, move, pad and delete cells; only replacing characters makes new ones.
So whatever property the empty cell and all cells of the input have, all cells of
a run have that replaces no characters.  `Row.All`, `Matrix.All` and
`Workbook.All` say that all cells have a property.  Each operation on rows and
matrices has a lemma that it keeps them (`fillRows_all`, `scatter_all`,
`placeAll_all`, ...), the handlers put these together, and `Rule.apply_all` is the
step that a run repeats (`Along.all`).

The property of interest is that a cell is empty or a cell of the input
(`Workbook.Gives`), and with it `run_invents_nothing` says that a run makes
nothing up.
-/

namespace Sheetflow

/-- All cells of a row have a property. -/
def Row.All (P : Cell → Prop) (row : Row) : Prop := ∀ c ∈ row, P c

def Matrix.All (P : Cell → Prop) (m : Matrix) : Prop := ∀ row ∈ m, Row.All P row

def Workbook.All (P : Cell → Prop) (wb : Workbook) : Prop := ∀ e ∈ wb, Matrix.All P e.2

/-- A cell is empty or stands somewhere in a workbook. -/
def Workbook.Gives (wb : Workbook) (c : Cell) : Prop :=
  c = .empty ∨ ∃ e ∈ wb, ∃ row ∈ e.2, c ∈ row

theorem Workbook.all_gives (wb : Workbook) : wb.All wb.Gives :=
  fun e he row hrow _ hc => .inr ⟨e, he, row, hrow, hc⟩

variable {P : Cell → Prop}

/-! ### Rows -/

namespace Row

variable {row more : Row}

theorem all_nil : All P [] := nofun

theorem all_cons {c : Cell} (hc : P c) (h : All P row) : All P (c :: row) :=
  List.forall_mem_cons.mpr ⟨hc, h⟩

theorem All.append (h : All P row) (hmore : All P more) : All P (row ++ more) :=
  List.forall_mem_append.mpr ⟨h, hmore⟩

theorem All.set (h : All P row) {c : Cell} (hc : P c) (i : Nat) : All P (row.set i c) := by
  intro d hd
  rcases List.mem_or_eq_of_mem_set hd with hd | rfl
  · exact h d hd
  · exact hc

variable (hempty : P .empty)
include hempty

theorem all_replicate_empty (n : Nat) : All P (List.replicate n .empty) := by
  intro c hc
  rw [List.eq_of_mem_replicate hc]
  exact hempty

theorem All.pad (h : All P row) (width : Nat) : All P (row.pad width) :=
  h.append (all_replicate_empty hempty _)

theorem All.put (h : All P row) {c : Cell} (hc : P c) (i : Nat) : All P (row.put i c) :=
  (h.pad hempty (i + 1)).set hc i

/-- Past the end of a row stand empty cells. -/
theorem All.cell (h : All P row) (i : Nat) : P (row.cell i) := by
  by_cases hi : i < row.length
  · exact h _ (cell_mem hi)
  · rw [Row.cell, List.getElem?_eq_none (Nat.le_of_not_lt hi)]
    exact hempty

end Row

/-! ### Filling -/

section Fill

variable (hempty : P .empty)
include hempty

/-- A gap takes a cell that was read in one of the rows. -/
theorem fillRows_all (col : Nat) {carry : Option Cell} (hcarry : ∀ c, carry = some c → P c)
    {rows : List (Bool × Row)} (h : ∀ r ∈ rows, Row.All P r.2) :
    Matrix.All P (fillRows col carry rows).rows := by
  induction rows generalizing carry with
  | nil => exact nofun
  | cons r rest ih =>
    obtain ⟨mayTake, row⟩ := r
    obtain ⟨hrow, hrest⟩ := List.forall_mem_cons.mp h
    simp only [fillRows]
    split
    · have hbelow := ih hcarry hrest
      cases carry with
      | none => exact List.forall_mem_cons.mpr ⟨hrow, hbelow⟩
      | some c =>
        cases mayTake with
        | true => exact List.forall_mem_cons.mpr ⟨hrow.put hempty (hcarry c rfl) col, hbelow⟩
        | false => exact List.forall_mem_cons.mpr ⟨hrow, hbelow⟩
    · have hread : ∀ c, some (row.cell col) = some c → P c := by
        rintro c ⟨⟩
        exact hrow.cell hempty col
      exact List.forall_mem_cons.mpr ⟨hrow, ih hread hrest⟩

omit hempty in
theorem markTakers_all {m : Matrix} (h : m.All P) : ∀ r ∈ markTakers m, Row.All P r.2 := by
  cases m with
  | nil => exact nofun
  | cons row rest =>
    obtain ⟨hrow, hrest⟩ := List.forall_mem_cons.mp h
    refine List.forall_mem_cons.mpr ⟨hrow, fun r hr => ?_⟩
    obtain ⟨other, ho, rfl⟩ := List.mem_map.mp hr
    exact hrest other ho

theorem fillColumn_all (direction : Direction) {m : Matrix} (h : m.All P) (col : Nat) :
    Matrix.All P (fillColumn direction m col).rows := by
  have hnone : ∀ c, (none : Option Cell) = some c → P c := nofun
  cases direction with
  | down => exact fillRows_all hempty col hnone (markTakers_all h)
  | up =>
    have hrows : Matrix.All P (fillRows col none (markTakers m).reverse).rows :=
      fillRows_all hempty col hnone fun r hr => markTakers_all h r (List.mem_reverse.mp hr)
    exact fun row hrow => hrows row (List.mem_reverse.mp hrow)

theorem fillColumns_all (direction : Direction) {m : Matrix} (h : m.All P) (cols : List Nat) :
    Matrix.All P (fillColumns direction m cols).rows := by
  unfold fillColumns
  refine List.foldlRecOn (motive := fun acc : Filled => Matrix.All P acc.rows) cols _ h ?_
  exact fun acc hacc col _ => fillColumn_all hempty direction hacc col

end Fill

/-! ### Deleting -/

theorem dropRows_sublist (doomed : List Nat) (i : Nat) (m : Matrix) :
    (dropRows doomed i m).Sublist m := by
  induction m generalizing i with
  | nil => exact List.Sublist.refl _
  | cons row rest ih =>
    rw [dropRows]
    split
    · exact (ih _).cons _
    · exact (ih _).cons_cons _

theorem dropCells_sublist (doomed : List Nat) (i : Nat) (row : Row) :
    (dropCells doomed i row).Sublist row := by
  induction row generalizing i with
  | nil => exact List.Sublist.refl _
  | cons c rest ih =>
    rw [dropCells]
    split
    · exact (ih _).cons _
    · exact (ih _).cons_cons _

theorem deleteMatching_sublist (test : Row → Bool) (m : Matrix) :
    (deleteMatching test m).Sublist m := by
  cases m with
  | nil => exact List.Sublist.refl _
  | cons first rest => exact List.filter_sublist.cons_cons _

theorem Matrix.All.sublist {m n : Matrix} (h : m.All P) (hs : n.Sublist m) : n.All P :=
  fun row hrow => h row (hs.subset hrow)

theorem Matrix.All.dropCells {m : Matrix} (h : m.All P) (doomed : List Nat) :
    Matrix.All P (m.map (dropCells doomed 0)) := by
  intro row hrow
  obtain ⟨whole, hwhole, rfl⟩ := List.mem_map.mp hrow
  exact fun c hc => h whole hwhole c ((dropCells_sublist doomed 0 whole).subset hc)

/-! ### Combining -/

theorem appendedRows_sublist (base source : Matrix) : (appendedRows base source).Sublist source := by
  unfold appendedRows
  split
  · split
    · exact List.sublist_cons_self _ _
    · exact List.Sublist.refl _
  · exact List.Sublist.refl _

theorem appendSheets_all {base : Matrix} (hbase : base.All P) {sources : List Matrix}
    (h : ∀ m ∈ sources, m.All P) : (appendSheets base sources).All P := by
  refine List.forall_mem_append.mpr ⟨hbase, fun row hrow => ?_⟩
  obtain ⟨source, hsource, hrow⟩ := List.mem_flatMap.mp hrow
  exact h source hsource row ((appendedRows_sublist base source).subset hrow)

theorem MergeHeader.place_all {h : MergeHeader} (hh : Row.All P h.cells) (taken : List Nat)
    {c : Cell} (hc : P c) : Row.All P (h.place taken c).1.cells := by
  have hadded : Row.All P (h.addColumn c).1.cells := hh.append (Row.all_cons hc Row.all_nil)
  unfold MergeHeader.place
  split
  · split
    · exact hadded
    · exact hh
  · exact hadded

theorem MergeHeader.placeAll_all {h : MergeHeader} (hh : Row.All P h.cells) (taken : List Nat)
    {row : Row} (hrow : Row.All P row) : Row.All P (h.placeAll taken row).1.cells := by
  induction row generalizing h taken with
  | nil => exact hh
  | cons c rest ih =>
    obtain ⟨hc, hrest⟩ := List.forall_mem_cons.mp hrow
    rw [placeAll_cons]
    exact ih (place_all hh taken hc) _ hrest

section Merge

variable (hempty : P .empty)
include hempty

theorem scatter_all (width : Nat) (columns : List Nat) {row : Row} (h : Row.All P row) :
    Row.All P (scatter width columns row) := by
  unfold scatter
  refine List.foldlRecOn (motive := Row.All P) (columns.zip row) _
    (Row.all_replicate_empty hempty width) ?_
  exact fun acc hacc p hp => Row.All.set hacc (h p.2 (List.of_mem_zip hp).2) p.1

theorem Matrix.All.header {m : Matrix} (h : m.All P) : Row.All P m.header := by
  cases m with
  | nil => exact Row.All.pad hempty Row.all_nil _
  | cons first rest => exact Row.All.pad hempty (h first List.mem_cons_self) _

theorem Merge.after_all {base : Matrix} (hbase : base.All P) {sources : List Matrix}
    (h : ∀ m ∈ sources, m.All P) :
    Row.All P (after base sources).1.cells ∧ Matrix.All P (after base sources).2 := by
  induction sources using List.reverseRecOn with
  | nil => exact ⟨hbase.header hempty, hbase.sublist (List.drop_sublist 1 base)⟩
  | append_singleton before source ih =>
    obtain ⟨hbefore, hlast⟩ := List.forall_mem_append.mp h
    have hsource : source.All P := hlast source List.mem_cons_self
    obtain ⟨hcells, hrows⟩ := ih hbefore
    rw [after_concat]
    refine ⟨MergeHeader.placeAll_all hcells [] (hsource.header hempty),
      List.forall_mem_append.mpr ⟨hrows, fun row hrow => ?_⟩⟩
    obtain ⟨whole, hwhole, rfl⟩ := List.mem_map.mp hrow
    exact scatter_all hempty _ _ (hsource whole (List.mem_of_mem_drop hwhole))

theorem mergeSheets_all {base : Matrix} (hbase : base.All P) {sources : List Matrix}
    (h : ∀ m ∈ sources, m.All P) : (mergeSheets base sources).All P := by
  obtain ⟨hcells, hrows⟩ := Merge.after_all hempty hbase h
  rw [Merge.mergeSheets_eq]
  refine List.forall_mem_cons.mpr ⟨hcells, fun row hrow => ?_⟩
  obtain ⟨whole, hwhole, rfl⟩ := List.mem_map.mp hrow
  exact Row.All.pad hempty (hrows whole hwhole) _

end Merge

/-! ### Worksheets -/

namespace Workbook

theorem All.sheet? {wb : Workbook} (h : wb.All P) {name : String} {m : Matrix}
    (hm : wb.sheet? name = some m) : m.All P := by
  induction wb with
  | nil => cases hm
  | cons e wb ih =>
    obtain ⟨he, hrest⟩ := List.forall_mem_cons.mp h
    rw [sheet?_cons] at hm
    split at hm
    · exact Option.some.inj hm ▸ he
    · exact ih hrest hm

theorem All.setSheet {wb : Workbook} (h : wb.All P) (name : String) {m : Matrix} (hm : m.All P) :
    (wb.setSheet name m).All P := by
  intro e he
  obtain ⟨old, hold, rfl⟩ := List.mem_map.mp he
  split
  · exact hm
  · exact h old hold

end Workbook

/-! ### Rules and runs -/

section Rules

variable {s : RunState} {o : Outcome}

theorem RunState.all_matrix (h : s.sheets.All P) : s.matrix.All P := by
  rw [matrix]
  cases hm : s.sheets.sheet? s.active with
  | none => exact List.forall_mem_nil _
  | some m => exact h.sheet? hm

/-- Selecting a worksheet changes none. -/
theorem applySelect_sheets {choice : SheetChoice} {value : String}
    (ha : applySelect s choice value = .ok o) : o.state.sheets = s.sheets := by
  rw [applySelect] at ha
  split at ha
  · cases ha
  · next target warnings _ =>
    cases ht : target.bind fun name => (s.select? name).map (name, ·) with
    | none =>
      rw [ht] at ha
      obtain rfl := Except.ok.inj ha
      rfl
    | some selection =>
      rw [ht] at ha
      obtain rfl := Except.ok.inj ha
      obtain ⟨name, -, hs⟩ := Option.bind_eq_some_iff.mp ht
      obtain ⟨t, hsel, rfl⟩ := Option.map_eq_some_iff.mp hs
      obtain ⟨m, -, rfl⟩ := RunState.eq_of_select? hsel
      rfl

theorem applyDeleteRows_all (h : s.sheets.All P) {rows : RowSelection}
    (ha : applyDeleteRows s rows = .ok o) : o.state.sheets.All P := by
  cases rows with
  | byNumber numbers unused =>
    obtain rfl := Except.ok.inj ha
    exact h.setSheet _ ((RunState.all_matrix h).sublist (dropRows_sublist _ _ _))
  | byCondition c unused =>
    simp only [applyDeleteRows] at ha
    split at ha
    · cases ha
    · split at ha
      · next hm =>
        obtain rfl := Except.ok.inj ha
        refine h.setSheet _ ((RunState.all_matrix h).sublist ?_)
        rw [hm]
        exact deleteMatching_sublist _ _
      · obtain rfl := Except.ok.inj ha
        exact h

theorem applyDeleteColumns_all (h : s.sheets.All P) {columns : List String}
    (ha : applyDeleteColumns s columns = .ok o) : o.state.sheets.All P := by
  unfold applyDeleteColumns at ha
  split at ha
  · cases ha
  · split at ha
    · obtain rfl := Except.ok.inj ha
      exact h
    · obtain rfl := Except.ok.inj ha
      exact h.setSheet _ ((RunState.all_matrix h).dropCells _)

variable (hempty : P .empty)
include hempty

theorem applyFill_all (h : s.sheets.All P) {columns : List String} {direction : Direction}
    (ha : applyFill s columns direction = .ok o) : o.state.sheets.All P := by
  unfold applyFill at ha
  split at ha
  · cases ha
  · obtain rfl := Except.ok.inj ha
    exact h.setSheet _ (fillColumns_all hempty direction (RunState.all_matrix h) _)

theorem applyCombine_all (h : s.sheets.All P) (sources : List String) (how : Combination) :
    (applyCombine s sources how).state.sheets.All P := by
  unfold applyCombine
  by_cases hr : (if sources.isEmpty then s.selected else sources).isEmpty = true
  · rw [if_pos hr]
    exact h
  · rw [if_neg hr]
    have hsources (names : List String) : ∀ m ∈ names.filterMap s.sheets.sheet?, m.All P := by
      intro m hm
      obtain ⟨name, _, hm⟩ := List.mem_filterMap.mp hm
      exact h.sheet? hm
    refine h.setSheet _ ?_
    cases how with
    | append => exact appendSheets_all (RunState.all_matrix h) (hsources _)
    | merge => exact mergeSheets_all hempty (RunState.all_matrix h) (hsources _)

/-- **A rule that replaces no characters keeps every property that the empty cell has.** -/
theorem Rule.apply_all (h : s.sheets.All P) {rule : Rule}
    (hrule : ∀ replacements, rule.action ≠ .replaceCharacters replacements)
    (ha : rule.apply s = .ok o) : o.state.sheets.All P := by
  obtain ⟨id, action⟩ := rule
  cases action with
  | selectWorksheet choice value => exact applySelect_sheets ha ▸ h
  | validateColumns expected onMismatch => exact applyValidate_state ha ▸ h
  | unmergeAndFill columns direction => exact applyFill_all hempty h ha
  | deleteRows rows => exact applyDeleteRows_all h ha
  | deleteColumns columns => exact applyDeleteColumns_all h ha
  | combineWorksheets sources how =>
    obtain rfl := Except.ok.inj ha
    exact applyCombine_all hempty h sources how
  | evaluateFormulas enabled =>
    obtain rfl := Except.ok.inj ha
    exact h
  | replaceCharacters replacements => exact absurd rfl (hrule replacements)

/-- So does a run without such rules, at every point. -/
theorem Along.all {wb : Workbook} {rules : List Rule} {p : Progress} (h : Along wb rules p)
    (hwb : wb.All P)
    (hrules : ∀ rule ∈ rules, ∀ replacements, rule.action ≠ .replaceCharacters replacements) :
    p.state.sheets.All P := by
  induction h with
  | start hs => exact (RunState.sound_of_initial? hs).1 ▸ hwb
  | @step rules p rule o _ ha _ ih =>
    obtain ⟨hbefore, hrule⟩ := List.forall_mem_append.mp hrules
    exact Rule.apply_all hempty (ih hbefore) (hrule rule List.mem_cons_self) ha

end Rules

/-- **A run that replaces no characters makes nothing up.**  Every cell of its result is empty or a
cell of the input, and so is every cell of every worksheet at every point of the run. -/
theorem run_invents_nothing {wb : Workbook} {rules : List Rule} {r : RunResult}
    (hrules : ∀ rule ∈ rules, ∀ replacements, rule.action ≠ .replaceCharacters replacements)
    (h : run wb rules = .ok r) :
    (∀ row ∈ r.matrix, ∀ c ∈ row, c = .empty ∨ ∃ e ∈ wb, ∃ row ∈ e.2, c ∈ row) ∧
      ∀ before p, before <+: rules → Along wb before p →
        ∀ e ∈ p.state.sheets, ∀ row ∈ e.2, ∀ c ∈ row,
          c = .empty ∨ ∃ e ∈ wb, ∃ row ∈ e.2, c ∈ row := by
  have hpoint (before : List Rule) (p : Progress) (hb : before <+: rules) (hp : Along wb before p) :
      p.state.sheets.All wb.Gives :=
    hp.all (.inl rfl) wb.all_gives fun rule hr => hrules rule (hb.subset hr)
  refine ⟨?_, hpoint⟩
  rcases along_of_run h with ⟨p, hp, rfl⟩ | ⟨_, _, _, p, _, _, _, _, _, rfl⟩
  · exact RunState.all_matrix (hpoint rules p List.prefix_rfl hp)
  · exact nofun

/-- Filling, deleting and merging: the number of the second worksheet stands beside the texts of the
first one, one of them twice, and a cell that has none is empty. -/
theorem run_invents_nothing_fill_delete_merge :
    let wb : Workbook :=
      [("A", [[.text "x", .text "y"], [.text "1", .bool true], [.empty, .text "z"]]),
        ("B", [[.text "y", .text "w"], [.int 1, .float .nan]])]
    let rules : List Rule := [⟨"f", .unmergeAndFill ["x"] .down⟩,
      ⟨"d", .deleteRows (.byNumber [2] none)⟩, ⟨"m", .combineWorksheets ["B"] .merge⟩]
    ∃ r, run wb rules = .ok r ∧
      r.matrix = [[.text "x", .text "y", .text "w"], [.text "1", .text "z", .empty],
        [.empty, .int 1, .float .nan]] ∧
      ∀ row ∈ r.matrix, ∀ c ∈ row, c = .empty ∨ ∃ e ∈ wb, ∃ row ∈ e.2, c ∈ row := by
  intro wb rules
  have hrules : ∀ rule ∈ rules, ∀ replacements, rule.action ≠ .replaceCharacters replacements := by
    simp [rules]
  have hr : run wb rules = .ok _ := rfl
  exact ⟨_, hr, rfl, (run_invents_nothing hrules hr).1⟩

end Sheetflow
