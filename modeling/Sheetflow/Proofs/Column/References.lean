import Mathlib.Data.List.Forall2
import Sheetflow.Proofs.Column.Resolution

/-!
# Lists of column references

A list of references is resolved one by one, and what is found so far decides whether a column is new.
Still the outcome can be said reference by reference (`ColumnRef.Resolution.Faithful`): the columns are
those that some reference stands for, each once and in the order of first reference, and the warnings
are those about the references that stand for none.

Lists that are resolved one behind the other are joined (`ColumnRef.Resolution.join`): joining is
associative (`join_assoc`), one more reference is joined like a list of its own (`add_eq_join`), and so
the start from which a list is resolved matters for the joining only (`resolveFrom_eq_map_join`).
-/

namespace Sheetflow

namespace ColumnRef
variable {headers : Headers} {width : Nat} {ref : ColumnRef}

/-! ### One reference -/

theorem column?_eq_some_iff {c : Nat} :
    ref.column? headers width = some c ↔
      ref.resolve headers (some width) = .ok (some c) ∧ c < width := by
  rw [column?]
  cases h : ref.resolve headers (some width) with
  | error e => simp
  | ok target =>
    cases target with
    | none => simp
    | some i =>
      by_cases hi : i < width
      · simp only [if_pos hi, Option.some.injEq, Except.ok.injEq]
        constructor
        · rintro rfl
          exact ⟨rfl, hi⟩
        · exact fun h => h.1
      · simp only [if_neg hi, Except.ok.injEq, Option.some.injEq, reduceCtorEq, false_iff]
        rintro ⟨rfl, hc⟩
        exact hi hc

/-- Is a reference lost, because it resolves to nothing or to a column that is not there? -/
def isLost (headers : Headers) (width : Nat) (ref : ColumnRef) : Bool :=
  match ref.resolve headers (some width) with
  | .ok none => true
  | .ok (some i) => width ≤ i
  | .error _ => false

/-- What there is to say about a reference that is lost. -/
inductive Complains (headers : Headers) (width : Nat) (ref : ColumnRef) : String → Prop
  | notFound (h : ref.resolve headers (some width) = .ok none) :
    Complains headers width ref ("Column \"" ++ ref.shown ++ "\" not found")
  | outOfRange {i : Nat} (h : ref.resolve headers (some width) = .ok (some i)) (hi : width ≤ i) :
    Complains headers width ref ("Column \"" ++ ref.shown ++ "\" is out of range (matrix has " ++
      toString width ++ " columns)")

/-- There is no complaint about a reference unless it is lost. -/
theorem complaint?_cases (headers : Headers) (width : Nat) (ref : ColumnRef) :
    (ref.isLost headers width = false ∧ ref.complaint? headers width = none) ∨
      (ref.isLost headers width = true ∧
        ∃ text, ref.complaint? headers width = some text ∧ ref.Complains headers width text) := by
  rw [isLost, complaint?]
  cases h : ref.resolve headers (some width) with
  | error e => exact .inl ⟨rfl, rfl⟩
  | ok target =>
    cases target with
    | none => exact .inr ⟨rfl, _, rfl, .notFound h⟩
    | some i =>
      by_cases hi : i < width
      · exact .inl ⟨decide_eq_false (Nat.not_le.mpr hi), if_pos hi⟩
      · have hi' : width ≤ i := Nat.le_of_not_lt hi
        exact .inr ⟨decide_eq_true hi', _, if_neg hi, .outOfRange h hi'⟩

/-- The complaints about a list are one about each reference that is lost. -/
theorem forall₂_complains (headers : Headers) (width : Nat) (refs : List ColumnRef) :
    List.Forall₂ (Complains headers width) (refs.filter (isLost headers width))
      (refs.filterMap (complaint? headers width)) := by
  induction refs with
  | nil => exact .nil
  | cons ref refs ih =>
    obtain ⟨hlost, hnone⟩ | ⟨hlost, text, htext, hcomplains⟩ := complaint?_cases headers width ref
    · rwa [List.filter_cons_of_neg (by simp [hlost]), List.filterMap_cons_none hnone]
    · rw [List.filter_cons_of_pos hlost, List.filterMap_cons_some htext]
      exact .cons hcomplains ih

/-! ### Lists one behind the other -/

namespace Resolution
variable {r : Resolution}

/-- What two lists of references resolve to, one behind the other: a column of the second is added
unless the first has it. -/
def join (r r' : Resolution) : Resolution :=
  ⟨r.columns ++ r'.columns.filter fun c => decide (c ∉ r.columns), r.warnings ++ r'.warnings⟩

theorem join_nil (r : Resolution) : r.join ⟨[], []⟩ = r := by
  rw [join, List.filter_nil, List.append_nil, List.append_nil]

theorem join_assoc (r s t : Resolution) : (r.join s).join t = r.join (s.join t) := by
  -- a column of `t` is new if neither `r` nor `s` has it, and what `s` adds to `r` are columns of `s`
  have hnew (c : Nat) : c ∉ r.columns ++ s.columns.filter (fun c => decide (c ∉ r.columns)) ↔
      c ∉ r.columns ∧ c ∉ s.columns := by
    by_cases hc : c ∈ r.columns <;> simp [hc]
  simp only [join, hnew, List.filter_append, List.filter_filter, List.append_assoc, Bool.decide_and]

/-- One more reference is joined like a list of its own. -/
theorem add_eq_join (r : Resolution) (width : Nat) (ref : ColumnRef) (target : Option Nat) :
    r.add width ref target = r.join (add ⟨[], []⟩ width ref target) := by
  cases target with
  | none => simp [add, join]
  | some i =>
    by_cases hi : width ≤ i
    · simp [add, join, hi]
    · by_cases hmem : i ∈ r.columns
      · simp [add, join, hi, hmem]
      · simp [add, join, hi, hmem]

/-- Where a list is resolved from matters for the joining only. -/
theorem resolveFrom_eq_map_join (r : Resolution) (refs : List ColumnRef) :
    resolveFrom headers width r refs = (resolveAll headers width refs).map r.join := by
  induction refs generalizing r with
  | nil => rw [resolveAll, resolveFrom, resolveFrom, Except.map, join_nil]
  | cons ref refs ih =>
    rw [resolveAll, resolveFrom, resolveFrom]
    cases ref.resolve headers (some width) with
    | error e => rfl
    | ok target =>
      dsimp only
      rw [ih, ih, add_eq_join r]
      cases resolveAll headers width refs with
      | error e => rfl
      | ok s => exact congrArg Except.ok (join_assoc _ _ _)

theorem resolveFrom_append (r : Resolution) (refs more : List ColumnRef) :
    resolveFrom headers width r (refs ++ more) =
      (resolveFrom headers width r refs).bind fun r => resolveFrom headers width r more := by
  induction refs generalizing r with
  | nil => rfl
  | cons ref refs ih =>
    rw [List.cons_append, resolveFrom, resolveFrom]
    cases ref.resolve headers (some width) with
    | error e => rfl
    | ok target => exact ih _

/-! ### What a list resolves to -/

/-- The outcome for a list of references, said reference by reference. -/
structure Faithful (headers : Headers) (width : Nat) (refs : List ColumnRef) (r : Resolution) :
    Prop where
  nodup : r.columns.Nodup
  bounds : ∀ c ∈ r.columns, c < width
  /-- A column comes before another if the first reference to it does. -/
  order : r.columns.Pairwise fun c d =>
    refs.findIdx (fun ref => ref.column? headers width == some c) <
      refs.findIdx (fun ref => ref.column? headers width == some d)
  mem : ∀ c, c ∈ r.columns ↔
    c < width ∧ ∃ ref ∈ refs, ref.resolve headers (some width) = .ok (some c)
  /-- One warning for each reference that is lost. -/
  warnings : List.Forall₂ (Complains headers width) (refs.filter (isLost headers width)) r.warnings

theorem faithful_ofRefs (headers : Headers) (width : Nat) (refs : List ColumnRef) :
    (ofRefs headers width refs).Faithful headers width refs := by
  have hmem (c : Nat) : c ∈ (ofRefs headers width refs).columns ↔
      c < width ∧ ∃ ref ∈ refs, ref.resolve headers (some width) = .ok (some c) := by
    simp only [ofRefs, List.mem_eraseDups, List.mem_filterMap, column?_eq_some_iff]
    constructor
    · rintro ⟨ref, href, hc, hlt⟩
      exact ⟨hlt, ref, href, hc⟩
    · rintro ⟨hlt, ref, href, hc⟩
      exact ⟨ref, href, hc, hlt⟩
  exact ⟨nodup_eraseDups _, fun c hc => ((hmem c).mp hc).1, pairwise_findIdx_eraseDups _ refs, hmem,
    forall₂_complains headers width refs⟩

end Resolution

/-- A list resolves if each of its references does. -/
theorem resolveAll_eq_ok_iff {refs : List ColumnRef} {r : Resolution} :
    resolveAll headers width refs = .ok r ↔
      (∀ ref ∈ refs, ref.Resolves headers width) ∧ r = .ofRefs headers width refs :=
  Resolution.resolveFrom_ofRefs_eq_ok_iff []

/-- **A list of references is resolved faithfully**: the columns that it gives are there, each once and
in the order of first reference, and they are all that some reference stands for; and there is one warning
for each reference that is lost.  A list resolves if each of its references does, and what two lists
resolve to, one behind the other, are the columns of the first, those of the second that the first has
not, and the warnings of both. -/
theorem resolveAll_faithful (headers : Headers) (width : Nat) (refs more : List ColumnRef) :
    (∀ r, resolveAll headers width refs = .ok r → r.Faithful headers width refs) ∧
      ((∃ r, resolveAll headers width refs = .ok r) ↔ ∀ ref ∈ refs, ref.Resolves headers width) ∧
      resolveAll headers width (refs ++ more) =
        (resolveAll headers width refs).bind fun r =>
          (resolveAll headers width more).map fun s =>
            ⟨r.columns ++ s.columns.filter fun c => decide (c ∉ r.columns),
              r.warnings ++ s.warnings⟩ := by
  refine ⟨fun r h => ?_, ⟨?_, fun h => ⟨_, resolveAll_eq_ok_iff.mpr ⟨h, rfl⟩⟩⟩, ?_⟩
  · obtain ⟨-, rfl⟩ := resolveAll_eq_ok_iff.mp h
    exact Resolution.faithful_ofRefs headers width refs
  · rintro ⟨r, h⟩
    exact (resolveAll_eq_ok_iff.mp h).1
  · rw [resolveAll, Resolution.resolveFrom_append]
    exact congrArg _ (funext fun r => Resolution.resolveFrom_eq_map_join r more)

/-- A column spelled in several ways, and three references that are lost. -/
example : resolveAll [("id", 0), ("qty", 2)] 3
      [.text "B", .index 7, .text " QTY ", .text "01", .absent, .index 2, .text "ID", .text "D"] =
    .ok ⟨[1, 2, 0], ["Column \"7\" is out of range (matrix has 3 columns)",
      "Column \"None\" not found", "Column \"D\" is out of range (matrix has 3 columns)"]⟩ := by
  decide +kernel

end ColumnRef

end Sheetflow
