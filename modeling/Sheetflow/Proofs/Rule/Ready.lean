import Mathlib.Data.List.Forall2
import Sheetflow.Proofs.Rule.Written

/-!
# What rules may take for granted

`Action.Ready` is what an action relies on when it is applied: texts to look for are not empty, scopes
are limited to something, rows are counted from one.  `Action.ReadFrom` ties the parts of an action
that have no default to the entries they were read from.  Whatever the reader for a tag reads is ready,
and was read from the entries it was given (`Action.ready_of_reader?`, `Action.readFrom_of_reader?`).
-/

namespace Sheetflow

open Sheetflow.Field Checked

/-! ### Entries and their readers -/

namespace Checked
variable {α β : Type}

/-- The values that are read from a list correspond to its elements, in order. -/
theorem forall₂_of_allFrom {f : α → Checked β} {i : Nat} {as : List α} {bs : List β}
    (h : allFrom f i as = .valid bs) : List.Forall₂ (fun a b => f a = .valid b) as bs := by
  induction as generalizing i bs with
  | nil =>
    cases h
    exact .nil
  | cons a as ih =>
    rw [allFrom, apply_valid_iff] at h
    obtain ⟨g, rest, hg, hrest, rfl⟩ := h
    obtain ⟨first, hfirst, rfl⟩ := map_valid_iff.mp hg
    exact .cons (under_valid_iff.mp hfirst) (ih hrest)

end Checked

namespace Field
variable {α : Type} {es : List (Value × Value)} {names : List String} {read : FieldReader α}

theorem forall₂_of_list {v : Value} {as : List α} (h : list read v = .valid as) :
    ∃ xs, v.items? = some xs ∧ List.Forall₂ (fun x a => read x = .valid a) xs as := by
  obtain ⟨xs, hxs, hall⟩ := exists_of_list h
  exact ⟨xs, hxs, forall₂_of_allFrom hall⟩

theorem present?_of_required {a : α} (h : required es names read = .valid a) :
    ∃ name v, present? es names = some (name, v) ∧ read v = .valid a := by
  unfold required at h
  split at h
  · rename_i name v hv
    exact ⟨name, v, hv, under_valid_iff.mp h⟩
  · cases under_valid_iff.mp h

/-- A field is read from the entry of its first name, if there is one. -/
theorem read_of_required {name : String} {v : Value} {a : α} (hv : Value.entry? name es = some v)
    (h : required es (name :: names) read = .valid a) : read v = .valid a := by
  simp only [required, present?, hv] at h
  exact under_valid_iff.mp h

/-- A field with a single name is read from the entry of that name, if there is one. -/
theorem entry?_of_withDefault {name : String} {default a : α}
    (h : withDefault es [name] default read = .valid a) :
    (Value.entry? name es = none ∧ a = default) ∨
      ∃ v, Value.entry? name es = some v ∧ read v = .valid a := by
  unfold withDefault present? at h
  cases he : Value.entry? name es with
  | none =>
    simp only [he, present?] at h
    cases h
    exact .inl ⟨rfl, rfl⟩
  | some v =>
    simp only [he] at h
    exact .inr ⟨v, rfl, under_valid_iff.mp h⟩

theorem entry?_of_optional {name : String} {a : α}
    (h : withDefault es [name] none (Field.optional read) = .valid (some a)) :
    ∃ v, Value.entry? name es = some v ∧ v ≠ .null ∧ read v = .valid a := by
  rcases entry?_of_withDefault h with ⟨-, hn⟩ | ⟨v, hv, hread⟩
  · cases hn
  · unfold Field.optional at hread
    split at hread
    · cases hread
    · rename_i hnull
      obtain ⟨b, hb, he⟩ := map_valid_iff.mp hread
      cases he
      exact ⟨v, hv, hnull, hb⟩

theorem eq_str_of_word {vocabulary : List α} {spelling : α → String} {v : Value} {a : α}
    (h : word vocabulary spelling v = .valid a) : v = .str (spelling a) := by
  unfold word at h
  cases v with
  | str s =>
    cases hs : vocabulary.find? (fun b => spelling b == s) with
    | none => simp [hs, Checked.fail] at h
    | some b =>
      obtain rfl : b = a := by simpa [hs] using h
      have hspelling : spelling b = s := by simpa using List.find?_some hs
      rw [hspelling]
  | _ => simp [Checked.fail] at h

/-- A natural number was read as a whole number that is not below the least one. -/
theorem integer_of_natural {least : Nat} {v : Value} {n : Nat} (h : natural least v = .valid n) :
    integer v = .valid (n : Int) ∧ least ≤ n := by
  obtain ⟨i, hi, hn⟩ := andThen_valid_iff.mp h
  split at hn
  · cases hn
  · rename_i hlow
    cases hn
    have hnat : (i.toNat : Int) = i := Int.toNat_of_nonneg (by omega)
    rw [hnat]
    exact ⟨hi, by omega⟩

theorem exists_of_mem_list {v : Value} {as : List α} {a : α} (h : list read v = .valid as)
    (ha : a ∈ as) : ∃ x, read x = .valid a := by
  obtain ⟨xs, -, hall⟩ := exists_of_list h
  obtain ⟨x, -, hx⟩ := mem_of_allFrom hall a ha
  exact ⟨x, hx⟩

/-- Row numbers that are given count from one. -/
theorem one_le_of_rows {rows : Option (List Nat)}
    (h : withDefault es names none (Field.optional (list (natural 1))) = .valid rows) :
    ∀ ns ∈ rows, ∀ n ∈ ns, 1 ≤ n := by
  intro ns hns n hn
  obtain rfl : rows = some ns := hns
  obtain ⟨v, hv⟩ := exists_of_optional h
  obtain ⟨x, hx⟩ := exists_of_mem_list hv hn
  exact (integer_of_natural hx).2

end Field

/-! ### What is taken for granted -/

/-- A test that looks for a text has one to look for. -/
def RowTest.Ready : RowTest → Prop
  | .blank _ => True
  | .contains needle => needle ≠ ""
  | .pattern source => source ≠ ""

/-- A replacement has a text to look for, and is limited to something if it is limited. -/
structure Replacement.Ready (r : Replacement) : Prop where
  find : r.find ≠ ""
  columns : r.scope = .columns → ∃ names, r.columns = some names ∧ names ≠ []
  rows : r.scope = .rows → ∃ numbers, r.rows = some numbers ∧ numbers ≠ []
  one_le : ∀ numbers ∈ r.rows, ∀ n ∈ numbers, 1 ≤ n

/-- All rows count from one and all conditions are ready, those that are not used among them. -/
def RowSelection.Ready : RowSelection → Prop
  | .byNumber rows unused => (∀ n ∈ rows, 1 ≤ n) ∧ ∀ condition ∈ unused, condition.test.Ready
  | .byCondition condition unused => condition.test.Ready ∧ ∀ rows ∈ unused, ∀ n ∈ rows, 1 ≤ n

def Action.Ready : Action → Prop
  | .deleteRows rows => rows.Ready
  | .replaceCharacters replacements => ∀ r ∈ replacements, r.Ready
  | _ => True

theorem RowTest.ready_of_make {kind : RowTestKind} {value : Option String} {test : RowTest}
    (h : make kind value = .valid test) : test.Ready := by
  unfold make at h
  split at h
  case h_1 =>
    cases h
    exact trivial
  case h_4 => cases h
  all_goals
    rename_i s hs
    cases h
    obtain ⟨-, hne⟩ := Option.filter_eq_some_iff.mp hs
    simpa [Ready] using hne

theorem RowCondition.ready_of_read {v : Value} {c : RowCondition} (h : read v = .valid c) :
    c.test.Ready := by
  obtain ⟨es, rfl, hes⟩ := exists_of_model h
  obtain ⟨⟨kind, column, value⟩, -, hmake⟩ := andThen_valid_iff.mp hes
  obtain ⟨test, htest, rfl⟩ := map_valid_iff.mp hmake
  exact RowTest.ready_of_make htest

theorem Replacement.ready_of_read {v : Value} {r : Replacement} (h : read v = .valid r) :
    r.Ready := by
  obtain ⟨es, rfl, hes⟩ := exists_of_model h
  obtain ⟨t, hfields, hcheck⟩ := andThen_valid_iff.mp hes
  obtain rfl := eq_of_check hcheck
  simp only [apply_valid_iff, map_valid_iff] at hfields
  obtain ⟨_, rows, ⟨_, columns, ⟨_, scope, ⟨_, replace, ⟨find, hfind, rfl⟩, -, rfl⟩, -, rfl⟩,
    -, rfl⟩, hrows, rfl⟩ := hfields
  obtain ⟨_, hfind⟩ := exists_of_required hfind
  refine ⟨ne_empty_of_textOfLength hfind, ?_, ?_, one_le_of_rows hrows⟩
  · rintro (rfl : scope = .columns)
    cases columns with
    | none => cases hcheck
    | some names =>
      refine ⟨names, rfl, ?_⟩
      rintro rfl
      cases hcheck
  · rintro (rfl : scope = .rows)
    cases rows with
    | none => cases hcheck
    | some numbers =>
      refine ⟨numbers, rfl, ?_⟩
      rintro rfl
      cases hcheck

/-! ### What actions were read from -/

/-- The rows to delete were given in the way that `method` says, and with what this way needs. -/
def RowSelection.ReadFrom (es : List (Value × Value)) : RowSelection → Prop
  | .byNumber rows _ => Value.entry? "method" es = some (.str "rows") ∧
      ∃ v xs, Value.entry? "rows" es = some v ∧ v.items? = some xs ∧
        List.Forall₂ (fun x n => integer x = .valid (Int.ofNat n)) xs rows
  | .byCondition condition _ =>
      (Value.entry? "method" es = none ∨ Value.entry? "method" es = some (.str "condition")) ∧
      ∃ v, Value.entry? "condition" es = some v ∧ v ≠ .null ∧ RowCondition.read v = .valid condition

/-- The entries of parameters that an action was read from. -/
def Action.ReadFrom (es : List (Value × Value)) (a : Action) : Prop :=
  (∃ read, reader? a.tag = some read ∧ read (.map es) = .valid a) ∧
    match a with
    | .validateColumns expected _ => ∃ name v,
        present? es ["expectedCount", "numOfColumns", "expected_count"] = some (name, v) ∧
          integer v = .valid (Int.ofNat expected)
    | .deleteRows rows => rows.ReadFrom es
    | _ => True

theorem RowSelection.ready_of_read {es : List (Value × Value)} {s : RowSelection}
    (h : read (.map es) = .valid s) : s.Ready ∧ s.ReadFrom es := by
  obtain ⟨⟨kind, rows, condition⟩, hfields, hmake⟩ := andThen_valid_iff.mp h
  simp only [apply_valid_iff, map_valid_iff] at hfields
  obtain ⟨_, _, ⟨_, _, ⟨_, hkind, rfl⟩, hrows, rfl⟩, hcondition, he⟩ := hfields
  cases he
  have hmethod : (Value.entry? "method" es = none ∧ kind = .condition) ∨
      Value.entry? "method" es = some (.str kind.word) := by
    rcases entry?_of_withDefault hkind with hnone | ⟨v, hv, hword⟩
    · exact .inl hnone
    · exact .inr (by rw [hv, eq_str_of_word hword])
  have hnumbers := one_le_of_rows hrows
  have hready : ∀ c ∈ condition, c.test.Ready := by
    rintro c rfl
    obtain ⟨v, -, -, hv⟩ := entry?_of_optional hcondition
    exact RowCondition.ready_of_read hv
  cases kind with
  | rows =>
    cases rows with
    | none => cases hmake
    | some ns =>
      cases hmake
      obtain ⟨v, hv, -, hread⟩ := entry?_of_optional hrows
      obtain ⟨xs, hxs, hall⟩ := forall₂_of_list hread
      refine ⟨⟨hnumbers ns rfl, hready⟩, hmethod.resolve_left nofun, v, xs, hv, hxs, ?_⟩
      exact hall.imp fun _ _ hx => (integer_of_natural hx).1
  | condition =>
    cases condition with
    | none => cases rows <;> cases hmake
    | some c =>
      cases hmake
      exact ⟨⟨hready c rfl, hnumbers⟩, hmethod.imp_left And.left, entry?_of_optional hcondition⟩

/-- **What the reader for a tag reads** is ready, and was read from the parameters it was given. -/
theorem Action.ready_of_reader? {tag : String} {read : FieldReader Action} {es : List (Value × Value)}
    {a : Action} (hr : reader? tag = some read) (h : read (.map es) = .valid a) :
    a.Ready ∧ a.ReadFrom es := by
  obtain rfl : a.tag = tag := (restores_reader? false hr h).1
  have hread : ∃ read, reader? a.tag = some read ∧ read (.map es) = .valid a := ⟨read, hr, h⟩
  cases a with
  | validateColumns expected onMismatch =>
    obtain rfl : readValidate = read := Option.some.inj hr
    simp only [readValidate, model, apply_valid_iff, map_valid_iff] at h
    obtain ⟨_, _, ⟨_, hexpected, rfl⟩, -, he⟩ := h
    cases he
    obtain ⟨name, v, hv, hn⟩ := present?_of_required hexpected
    exact ⟨trivial, hread, name, v, hv, (integer_of_natural hn).1⟩
  | deleteRows rows =>
    obtain rfl := Option.some.inj hr
    obtain ⟨s, hs, he⟩ := map_valid_iff.mp h
    cases he
    obtain ⟨hready, hfrom⟩ := RowSelection.ready_of_read hs
    exact ⟨hready, hread, hfrom⟩
  | replaceCharacters replacements =>
    obtain rfl : readReplace = read := Option.some.inj hr
    obtain ⟨rs, hrs, he⟩ := map_valid_iff.mp h
    cases he
    obtain ⟨_, hlist⟩ := exists_of_required hrs
    refine ⟨fun r hr => ?_, hread, trivial⟩
    obtain ⟨_, hr⟩ := exists_of_mem_list hlist hr
    exact Replacement.ready_of_read hr
  | _ => exact ⟨trivial, hread, trivial⟩

end Sheetflow
