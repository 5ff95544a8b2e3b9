import Sheetflow.Run.Basic

/-!
# Where rules meet limits

Data that does not fit a rule only causes warnings.  A run fails outright where the text of a rule
goes beyond a limit, whatever the worksheets hold: a column is named by too long a numeral, a number
of columns is too long to be written, a pattern repeats too often, by too long a numeral, or asks for
flags that exclude each other.  `Action.Exceeds` says which part of an action a failure stands for,
`Rule.exceeds_of_apply` covers the eight kinds of actions one by one, and `exceeds_of_run` goes from a
rule to a run.  The stack is no such limit here; where it matters, patterns are shallow
(`Action.IsShallow`).
-/

namespace Sheetflow

namespace Action

/-- The texts by which an action names columns. -/
def columnNames : Action → List String
  | .unmergeAndFill columns _ => columns
  | .deleteRows (.byCondition condition _) => condition.columnName?.toList
  | .deleteColumns columns => columns
  | .replaceCharacters replacements =>
    replacements.flatMap fun r => if r.scope = .columns then r.columns.getD [] else []
  | _ => []

/-- The pattern that an action looks for. -/
def pattern? : Action → Option String
  | .selectWorksheet .pattern source => some source
  | .deleteRows (.byCondition ⟨.pattern source, _⟩ _) => some source
  | _ => none

/-- The pattern has so few parentheses that every stack has room for reading it. -/
def IsShallow (a : Action) : Prop :=
  ∀ source, a.pattern? = some source → source.toList.count '(' ≤ 100

/-- The part of an action that goes beyond a limit. -/
def Exceeds (a : Action) : RunError → Prop
  | .noWorksheets => False
  | .numeralTooLong e =>
    (∃ name ∈ a.columnNames, (Text.trim name).toList.all Text.isDigit = true ∧
      (Text.trim name).toList.length = e.digits ∧ digitLimit < e.digits) ∨
    ∃ source, a.pattern? = some source ∧ Pattern.read source = .error (.numeral e)
  | .numberTooLong => ∃ expected onMismatch,
      a = .validateColumns expected onMismatch ∧ isWritable expected = false
  | .repetitionTooLarge => ∃ source, a.pattern? = some source ∧
      Pattern.read source = .error .repetitionTooLarge
  | .incompatiblePatternFlags => ∃ source, a.pattern? = some source ∧
      Pattern.read source = .error .asciiAndUnicode

end Action

/-! ### Columns -/

namespace ColumnRef

theorem resolveText_error {headers : Headers} {width : Option Nat} {text : String}
    {e : NumeralTooLong} (h : resolveText headers width text = .error e) :
    text.toList.all Text.isDigit = true ∧ text.toList.length = e.digits ∧ digitLimit < e.digits := by
  simp only [resolveText] at h
  by_cases hempty : text.toList.isEmpty = true
  · rw [if_pos hempty] at h
    cases h
  · rw [if_neg hempty] at h
    by_cases hdigits : text.toList.all Text.isDigit = true
    · rw [if_pos hdigits] at h
      by_cases hlimit : digitLimit < text.toList.length
      · rw [if_pos hlimit] at h
        cases h
        exact ⟨hdigits, rfl, hlimit⟩
      · rw [if_neg hlimit] at h
        cases h
    · -- what is no numeral leads to a column or to none
      rw [if_neg hdigits] at h
      by_cases hletters : text.toList.all Text.isAsciiLetter = true
      · rw [if_pos hletters] at h
        cases hi : Column.indexOf text with
        | error _ => rw [hi] at h; cases h
        | ok i =>
          simp only [hi] at h
          split at h <;> cases h
      · rw [if_neg hletters] at h
        cases h

theorem resolveFrom_error {headers : Headers} {width : Nat} {r : Resolution} {refs : List ColumnRef}
    {e : NumeralTooLong} (h : resolveFrom headers width r refs = .error e) :
    ∃ ref ∈ refs, ref.resolve headers (some width) = .error e := by
  induction refs generalizing r with
  | nil => cases h
  | cons ref refs ih =>
    rw [resolveFrom] at h
    cases hr : ref.resolve headers (some width) with
    | error e' =>
      rw [hr] at h
      cases h
      exact ⟨ref, List.mem_cons_self, hr⟩
    | ok target =>
      rw [hr] at h
      obtain ⟨ref', hmem, hr'⟩ := ih h
      exact ⟨ref', List.mem_cons_of_mem ref hmem, hr'⟩

end ColumnRef

/-- Columns fail to be found only by a name that is too long a numeral. -/
theorem exceeds_of_resolveNames {a : Action} {headers : Headers} {width : Nat} {names : List String}
    {e : RunError} (h : resolveNames headers width names = .error e)
    (hnames : ∀ name ∈ names, name ∈ a.columnNames) : a.Exceeds e := by
  unfold resolveNames at h
  cases hr : ColumnRef.resolveAll headers width (names.map .text) with
  | ok r => rw [hr] at h; cases h
  | error e' =>
    rw [hr] at h
    cases h
    obtain ⟨ref, href, hresolve⟩ := ColumnRef.resolveFrom_error hr
    obtain ⟨name, hname, rfl⟩ := List.mem_map.mp href
    have htrimmed : ColumnRef.resolveText headers (some width) (Text.trim name) = .error e' := hresolve
    exact .inl ⟨name, hnames name hname, ColumnRef.resolveText_error htrimmed⟩

/-! ### Patterns -/

theorem exceeds_of_readPattern {a : Action} {source : String} {e : RunError}
    (h : readPattern source = .error e) (ha : a.pattern? = some source) : a.Exceeds e := by
  unfold readPattern at h
  split at h
  · cases h
  · cases h
  · rename_i hread
    cases h
    exact ⟨source, ha, hread⟩
  · rename_i hread
    cases h
    exact .inr ⟨source, ha, hread⟩
  · rename_i hread
    cases h
    exact ⟨source, ha, hread⟩

/-! ### Actions -/

section
variable {s : RunState} {e : RunError}

theorem exceeds_of_applySelect {choice : SheetChoice} {value : String}
    (h : applySelect s choice value = .error e) : (Action.selectWorksheet choice value).Exceeds e := by
  unfold applySelect at h
  cases hc : chooseSheet s.sheets.names choice value with
  | ok r =>
    rw [hc] at h
    simp only at h
    split at h <;> cases h
  | error e' =>
    rw [hc] at h
    cases h
    cases choice with
    | name => cases hc
    | index => cases hc
    | pattern =>
      simp only [chooseSheet] at hc
      split at hc
      · rename_i hread
        cases hc
        exact exceeds_of_readPattern hread rfl
      · cases hc
      · cases hc

theorem exceeds_of_applyValidate {ruleId : String} {expected : Nat} {onMismatch : OnMismatch}
    (h : applyValidate s ruleId expected onMismatch = .error e) :
    (Action.validateColumns expected onMismatch).Exceeds e := by
  unfold applyValidate at h
  simp only at h
  split at h
  · cases h
  · split at h
    · cases h
    · rename_i hwritable
      cases h
      exact ⟨expected, onMismatch, rfl, by simpa using hwritable⟩

theorem exceeds_of_applyFill {columns : List String} {direction : Direction}
    (h : applyFill s columns direction = .error e) :
    (Action.unmergeAndFill columns direction).Exceeds e := by
  unfold applyFill at h
  split at h
  · rename_i hr
    cases h
    exact exceeds_of_resolveNames hr fun _ hname => hname
  · cases h

theorem exceeds_of_rowTest {test : RowTest} {name : Option String} {unused : Option (List Nat)}
    {column : Option Nat} (h : rowTest test column = .error e) :
    (Action.deleteRows (.byCondition ⟨test, name⟩ unused)).Exceeds e := by
  cases test with
  | blank _ => cases h
  | contains _ => cases h
  | pattern source =>
    simp only [rowTest] at h
    split at h
    · rename_i hread
      cases h
      exact exceeds_of_readPattern hread rfl
    · cases h
    · cases h

theorem exceeds_of_matching {condition : RowCondition} {unused : Option (List Nat)}
    (h : matching s condition = .error e) :
    (Action.deleteRows (.byCondition condition unused)).Exceeds e := by
  unfold matching at h
  split at h
  · exact exceeds_of_rowTest h
  · rename_i name hname
    split at h
    · rename_i hr
      cases h
      refine exceeds_of_resolveNames hr fun n hn => ?_
      simpa [Action.columnNames, hname] using hn
    · split at h
      · cases h
      · cases ht : rowTest condition.test (some _) with
        | ok m => rw [ht] at h; cases h
        | error e' =>
          rw [ht] at h
          cases h
          exact exceeds_of_rowTest ht

theorem exceeds_of_applyDeleteRows {rows : RowSelection} (h : applyDeleteRows s rows = .error e) :
    (Action.deleteRows rows).Exceeds e := by
  cases rows with
  | byNumber _ _ => cases h
  | byCondition condition unused =>
    simp only [applyDeleteRows] at h
    split at h
    · rename_i hm
      cases h
      exact exceeds_of_matching hm
    · split at h <;> cases h

theorem exceeds_of_applyDeleteColumns {columns : List String}
    (h : applyDeleteColumns s columns = .error e) : (Action.deleteColumns columns).Exceeds e := by
  unfold applyDeleteColumns at h
  split at h
  · rename_i hr
    cases h
    exact exceeds_of_resolveNames hr fun _ hname => hname
  · split at h <;> cases h

theorem exceeds_of_replacement {a : Action} {r : Replacement} {acc : Replaced}
    (h : r.apply acc = .error e)
    (hnames : r.scope = .columns → ∀ name ∈ r.columns.getD [], name ∈ a.columnNames) :
    a.Exceeds e := by
  unfold Replacement.apply Replacement.targets at h
  cases hs : r.scope with
  | everywhere => rw [hs] at h; cases h
  | rows => rw [hs] at h; cases h
  | columns =>
    simp only [hs] at h
    cases hr : resolveNames (.ofMatrix acc.matrix) acc.matrix.width (r.columns.getD []) with
    | ok found => rw [hr] at h; cases h
    | error e' =>
      rw [hr] at h
      cases h
      exact exceeds_of_resolveNames hr (hnames hs)

theorem exceeds_of_replaceAll {a : Action} {acc : Replaced} {replacements : List Replacement}
    (h : replaceAll acc replacements = .error e)
    (hnames : ∀ r ∈ replacements, r.scope = .columns →
      ∀ name ∈ r.columns.getD [], name ∈ a.columnNames) : a.Exceeds e := by
  induction replacements generalizing acc with
  | nil => cases h
  | cons r rest ih =>
    rw [replaceAll] at h
    cases hr : r.apply acc with
    | error e' =>
      rw [hr] at h
      cases h
      exact exceeds_of_replacement hr (hnames r List.mem_cons_self)
    | ok acc' =>
      rw [hr] at h
      exact ih h fun r' hr' => hnames r' (List.mem_cons_of_mem r hr')

theorem exceeds_of_applyReplace {replacements : List Replacement}
    (h : applyReplace s replacements = .error e) :
    (Action.replaceCharacters replacements).Exceeds e := by
  unfold applyReplace at h
  cases hr : replaceAll ⟨s.matrix, 0, []⟩ replacements with
  | ok acc => rw [hr] at h; cases h
  | error e' =>
    rw [hr] at h
    cases h
    refine exceeds_of_replaceAll hr fun r hmem hscope name hname => ?_
    exact List.mem_flatMap.mpr ⟨r, hmem, by rwa [if_pos hscope]⟩

end

/-- **A rule fails only if its own text goes beyond a limit**, whatever the worksheets hold. -/
theorem Rule.exceeds_of_apply {rule : Rule} {s : RunState} {e : RunError}
    (h : rule.apply s = .error e) : rule.action.Exceeds e := by
  obtain ⟨id, action⟩ := rule
  cases action with
  | selectWorksheet choice value => exact exceeds_of_applySelect h
  | validateColumns expected onMismatch => exact exceeds_of_applyValidate h
  | unmergeAndFill columns direction => exact exceeds_of_applyFill h
  | deleteRows rows => exact exceeds_of_applyDeleteRows h
  | deleteColumns columns => exact exceeds_of_applyDeleteColumns h
  | combineWorksheets sources how => cases h
  | evaluateFormulas enabled => cases h
  | replaceCharacters replacements => exact exceeds_of_applyReplace h

theorem Progress.exceeds_of_run {p : Progress} {rules : List Rule} {e : RunError}
    (h : p.run rules = .error e) : ∃ rule ∈ rules, rule.action.Exceeds e := by
  induction rules generalizing p with
  | nil => cases h
  | cons rule rest ih =>
    rw [Progress.run] at h
    cases ha : rule.apply p.state with
    | error e' =>
      rw [ha] at h
      cases h
      exact ⟨rule, List.mem_cons_self, Rule.exceeds_of_apply ha⟩
    | ok o =>
      simp only [ha] at h
      split at h
      · cases h
      · obtain ⟨rule', hmem, he⟩ := ih h
        exact ⟨rule', List.mem_cons_of_mem rule hmem, he⟩

/-- **A run on worksheets fails only by a rule whose own text goes beyond a limit.** -/
theorem exceeds_of_run {wb : Workbook} {rules : List Rule} {e : RunError} (hwb : wb ≠ [])
    (h : run wb rules = .error e) : ∃ rule ∈ rules, rule.action.Exceeds e := by
  cases wb with
  | nil => exact absurd rfl hwb
  | cons sheet wb => exact Progress.exceeds_of_run h

end Sheetflow
