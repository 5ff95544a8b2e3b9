import Mathlib.Data.List.Induction
import Sheetflow.Run.Outcome

/-!
# Resolved columns

A name stands for a column that exists (`ColumnRef.column?`), or there is a complaint about it
(`ColumnRef.complaint?`).  A list of names resolves to the columns that they stand for, each where it
comes first, and to the complaints, one for every occurrence of a name that there is one about
(`resolveNames_eq_ok_iff`).  So the columns exist and each is given once
(`ColumnRef.Resolution.Fits`), and one name alone gives one column or one warning
(`resolveNames_singleton`).  Rows are given by number (`mem_rowIndices`).

Which column a name stands for depends on the headers.  Only for a letter code it depends on the width
of the matrix as well (`ColumnRef.resolveText_congr`): a name that is none stands for the same column in
every matrix with these headers, if it has that column.
-/

namespace Sheetflow

/-! ### First occurrences -/

section
variable {α : Type} [BEq α] [LawfulBEq α]

theorem eraseDups_concat (xs : List α) (x : α) :
    (xs ++ [x]).eraseDups = if x ∈ xs then xs.eraseDups else xs.eraseDups ++ [x] := by
  rw [List.eraseDups_append]
  by_cases h : x ∈ xs <;> simp [h, List.removeAll, List.eraseDups_cons]

theorem nodup_eraseDups (xs : List α) : xs.eraseDups.Nodup := by
  induction xs using List.reverseRecOn with
  | nil => exact List.nodup_nil
  | append_singleton xs x ih =>
    rw [eraseDups_concat]
    split
    · exact ih
    · next hx =>
      refine List.nodup_append.mpr ⟨ih, List.pairwise_singleton _ x, ?_⟩
      rintro y hy z hz rfl
      exact hx (List.mem_singleton.mp hz ▸ List.mem_eraseDups.mp hy)

/-- Of what is found along a list, the first findings come in the order of their positions. -/
theorem pairwise_findIdx_eraseDups {β : Type} (f : β → Option α) (xs : List β) :
    (xs.filterMap f).eraseDups.Pairwise fun a b =>
      xs.findIdx (fun x => f x == some a) < xs.findIdx (fun x => f x == some b) := by
  induction xs using List.reverseRecOn with
  | nil => exact List.Pairwise.nil
  | append_singleton xs z ih =>
    have hfound {a : α} (ha : a ∈ (xs.filterMap f).eraseDups) :
        xs.findIdx (fun x => f x == some a) < xs.length := by
      obtain ⟨x, hx, hfx⟩ := List.mem_filterMap.mp (List.mem_eraseDups.mp ha)
      exact List.findIdx_lt_length_of_exists ⟨x, hx, beq_iff_eq.mpr hfx⟩
    have hold : (xs.filterMap f).eraseDups.Pairwise fun a b =>
        (xs ++ [z]).findIdx (fun x => f x == some a) <
          (xs ++ [z]).findIdx (fun x => f x == some b) := by
      refine ih.imp_of_mem fun ha hb hlt => ?_
      rwa [List.findIdx_append, List.findIdx_append, if_pos (hfound ha), if_pos (hfound hb)]
    rw [List.filterMap_append, List.filterMap_cons, List.filterMap_nil]
    cases hz : f z with
    | none => rwa [List.append_nil]
    | some c =>
      rw [eraseDups_concat]
      split
      · exact hold
      · next hnew =>
        have hlast : xs.findIdx (fun x => f x == some c) = xs.length := by
          refine List.findIdx_eq_length.mpr fun x hx => ?_
          rw [beq_eq_false_iff_ne]
          exact fun hfx => hnew (List.mem_filterMap.mpr ⟨x, hx, hfx⟩)
        refine List.pairwise_append.mpr ⟨hold, List.pairwise_singleton _ c, fun a ha b hb => ?_⟩
        rw [List.mem_singleton.mp hb, List.findIdx_append, List.findIdx_append, if_pos (hfound ha),
          hlast, if_neg (Nat.lt_irrefl _)]
        exact Nat.lt_add_left _ (hfound ha)

end

/-! ### One name -/

/-- Is a text one to three letters, and so a letter code of a column? -/
def Column.isLetterCode (text : String) : Bool :=
  !text.toList.isEmpty && text.toList.length ≤ 3 && text.toList.all Text.isAsciiLetter

theorem Column.indexOf_of_long {text : String} (h : 3 < text.toList.length) :
    indexOf text = .error (.notAName text) := by
  rw [indexOf, if_pos h]

namespace ColumnRef
variable {headers : Headers} {width : Nat} {refs : List ColumnRef}

/-- The width of the matrix is looked at for a letter code only. -/
theorem resolveText_congr {text : String} (h : Column.isLetterCode text = false)
    (headers : Headers) (w w' : Option Nat) :
    resolveText headers w text = resolveText headers w' text := by
  simp only [resolveText]
  by_cases hempty : text.toList.isEmpty = true
  · rw [if_pos hempty, if_pos hempty]
  · by_cases hletters : text.toList.all Text.isAsciiLetter = true
    · have hlong : 3 < text.toList.length := by
        rw [Column.isLetterCode, hletters] at h
        simpa [hempty] using h
      rw [Column.indexOf_of_long hlong]
    · rw [if_neg hempty, if_neg hempty, if_neg hletters, if_neg hletters]

/-- The column that a reference stands for, if a matrix of this width has it. -/
def column? (headers : Headers) (width : Nat) (ref : ColumnRef) : Option Nat :=
  match ref.resolve headers (some width) with
  | .ok (some i) => if i < width then some i else none
  | _ => none

/-- The warning about a reference that stands for no such column. -/
def complaint? (headers : Headers) (width : Nat) (ref : ColumnRef) : Option String :=
  match ref.resolve headers (some width) with
  | .ok none => some ("Column \"" ++ ref.shown ++ "\" not found")
  | .ok (some i) =>
    if i < width then none
    else some ("Column \"" ++ ref.shown ++ "\" is out of range (matrix has " ++ toString width ++
      " columns)")
  | .error _ => none

/-- A reference that is no numeral beyond the limit. -/
def Resolves (headers : Headers) (width : Nat) (ref : ColumnRef) : Prop :=
  ∃ target, ref.resolve headers (some width) = .ok target

theorem lt_of_column? {ref : ColumnRef} {i : Nat} (h : ref.column? headers width = some i) :
    i < width := by
  rw [column?] at h
  split at h
  · obtain ⟨hi, he⟩ := Option.ite_none_right_eq_some.mp h
    exact Option.some.inj he ▸ hi
  · cases h

/-- There is a complaint about exactly the references that stand for no column. -/
theorem Resolves.complaint?_isSome {ref : ColumnRef} (h : ref.Resolves headers width) :
    (ref.complaint? headers width).isSome = (ref.column? headers width).isNone := by
  obtain ⟨target, h⟩ := h
  simp only [complaint?, column?, h]
  cases target with
  | none => rfl
  | some i => by_cases hi : i < width <;> simp only [hi, if_true, if_false] <;> rfl

/-! ### Several names -/

namespace Resolution
variable {r : Resolution}

/-- The columns exist in a matrix of this width, and none is given twice. -/
structure Fits (width : Nat) (r : Resolution) : Prop where
  nodup : r.columns.Nodup
  lt : ∀ c ∈ r.columns, c < width

/-- The columns that references stand for, each once, and the complaints about them. -/
def ofRefs (headers : Headers) (width : Nat) (refs : List ColumnRef) : Resolution :=
  ⟨(refs.filterMap (column? headers width)).eraseDups, refs.filterMap (complaint? headers width)⟩

/-- One more reference behind some. -/
theorem ofRefs_add {ref : ColumnRef} {target : Option Nat}
    (h : ref.resolve headers (some width) = .ok target) (done : List ColumnRef) :
    (ofRefs headers width done).add width ref target = ofRefs headers width (done ++ [ref]) := by
  simp only [ofRefs, List.filterMap_append, List.filterMap_cons, List.filterMap_nil, add]
  cases target with
  | none => simp only [column?, complaint?, h, List.append_nil]
  | some i =>
    by_cases hi : i < width
    · simp only [column?, complaint?, h, hi, if_true, if_neg (Nat.not_le.mpr hi), eraseDups_concat,
        List.mem_eraseDups, List.append_nil]
      split <;> rfl
    · simp only [column?, complaint?, h, hi, if_false, if_pos (Nat.le_of_not_lt hi), List.append_nil]

/-- References resolve one after the other, and fail together. -/
theorem resolveFrom_ofRefs_eq_ok_iff (done : List ColumnRef) :
    resolveFrom headers width (ofRefs headers width done) refs = .ok r ↔
      (∀ ref ∈ refs, ref.Resolves headers width) ∧ r = ofRefs headers width (done ++ refs) := by
  induction refs generalizing done with
  | nil => simp [resolveFrom, eq_comm]
  | cons ref refs ih =>
    rw [resolveFrom, List.forall_mem_cons]
    cases htarget : ref.resolve headers (some width) with
    | error e =>
      refine ⟨nofun, ?_⟩
      rintro ⟨⟨⟨target, hok⟩, -⟩, -⟩
      rw [htarget] at hok
      cases hok
    | ok target =>
      dsimp only
      rw [ofRefs_add htarget, ih, List.append_assoc, List.singleton_append,
        and_iff_right (show ref.Resolves headers width from ⟨target, htarget⟩)]

end Resolution

end ColumnRef

variable {headers : Headers} {width : Nat} {names : List String} {r : ColumnRef.Resolution}

/-- **What names resolve to**: the columns that they stand for and the complaints about them. -/
theorem resolveNames_eq_ok_iff :
    resolveNames headers width names = .ok r ↔
      (∀ name ∈ names, (ColumnRef.text name).Resolves headers width) ∧
        r = ⟨(names.filterMap fun name => (ColumnRef.text name).column? headers width).eraseDups,
          names.filterMap fun name => (ColumnRef.text name).complaint? headers width⟩ := by
  have hok (found : Except NumeralTooLong ColumnRef.Resolution) :
      found.mapError RunError.numeralTooLong = .ok r ↔ found = .ok r := by
    cases found <;> simp [Except.mapError]
  rw [resolveNames, hok, ColumnRef.resolveAll]
  refine (ColumnRef.Resolution.resolveFrom_ofRefs_eq_ok_iff []).trans ?_
  simp only [List.nil_append, List.forall_mem_map, ColumnRef.Resolution.ofRefs, List.filterMap_map,
    Function.comp_def]

theorem fits_of_resolveNames (h : resolveNames headers width names = .ok r) : r.Fits width := by
  obtain ⟨-, rfl⟩ := resolveNames_eq_ok_iff.mp h
  refine ⟨nodup_eraseDups _, fun i hi => ?_⟩
  obtain ⟨name, -, hname⟩ := List.mem_filterMap.mp (List.mem_eraseDups.mp hi)
  exact ColumnRef.lt_of_column? hname

/-- What one name alone resolves to. -/
theorem resolveNames_singleton (headers : Headers) (width : Nat) (name : String) :
    resolveNames headers width [name] =
      ((ColumnRef.resolveText headers (some width) (Text.trim name)).mapError .numeralTooLong).map
        (ColumnRef.Resolution.add ⟨[], []⟩ width (.text name)) := by
  rw [resolveNames, ColumnRef.resolveAll, List.map_singleton, ColumnRef.resolveFrom,
    ColumnRef.resolve]
  cases ColumnRef.resolveText headers (some width) (Text.trim name) <;> rfl

/-- One name alone resolves to one column and no warning, or to no column and one warning. -/
theorem resolveNames_singleton_cases {name : String}
    (h : resolveNames headers width [name] = .ok r) :
    (∃ i, ColumnRef.resolveText headers (some width) (Text.trim name) = .ok (some i) ∧ i < width ∧
        r = ⟨[i], []⟩) ∨ r.columns = [] ∧ r.warnings.length = 1 := by
  rw [resolveNames_singleton] at h
  cases htarget : ColumnRef.resolveText headers (some width) (Text.trim name) with
  | error e =>
    rw [htarget] at h
    cases h
  | ok target =>
    rw [htarget] at h
    obtain rfl := Except.ok.inj h
    cases target with
    | none => exact .inr ⟨rfl, rfl⟩
    | some i =>
      by_cases hi : width ≤ i
      · rw [ColumnRef.Resolution.add, if_pos hi]
        exact .inr ⟨rfl, rfl⟩
      · refine .inl ⟨i, rfl, Nat.lt_of_not_le hi, ?_⟩
        rw [ColumnRef.Resolution.add, if_neg hi]
        rfl

/-! ### Rows by number -/

theorem mem_rowIndices {rows : List Nat} {count i : Nat} :
    i ∈ rowIndices (rows.map Int.ofNat) count ↔ i < count ∧ i + 1 ∈ rows := by
  simp only [rowIndices, List.mem_filter, List.mem_range, List.mem_map, decide_eq_true_eq]
  refine and_congr_right fun _ => ⟨?_, fun h => ⟨i + 1, h, rfl⟩⟩
  rintro ⟨n, hn, he⟩
  have hn' : n = i + 1 := by
    have : (n : Int) = i + 1 := he
    omega
  exact hn' ▸ hn

end Sheetflow
