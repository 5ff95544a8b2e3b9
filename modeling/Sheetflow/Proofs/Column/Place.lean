import Sheetflow.Proofs.Column.Resolution
import Sheetflow.Proofs.Text.Ascii

/-!
# Columns named by their place

A numeral names a column by its index, and a letter code names it by its letters if the matrix has that
column.  Such a name gives its column without a look at the headers (`Column.place?`), so it stands for
the same column in every matrix of this width (`ColumnRef.resolve_of_place?`).  A numeral gives the same
index whatever the width is (`Column.place?_of_isNumeral`); the width only decides whether the matrix has
that column.
-/

namespace Sheetflow

namespace Column

/-- Is a text a numeral that is short enough for an index? -/
def isNumeral (text : String) : Bool :=
  !text.toList.isEmpty && text.toList.all Text.isDigit && text.toList.length ≤ digitLimit

/-- The column that a name gives by its place in a matrix of some width. -/
def place? (width : Nat) (name : String) : Option Nat :=
  if isNumeral (Text.trim name) then some (Text.numeralValue (Text.trim name).toList)
  else if isLetterCode (Text.trim name) then (indexOf (Text.trim name)).toOption.filter (· < width)
  else none

theorem place?_of_isNumeral {name : String} (h : isNumeral (Text.trim name) = true) (width : Nat) :
    place? width name = some (Text.numeralValue (Text.trim name).toList) := if_pos h

/-- A letter code is no numeral. -/
theorem not_all_isDigit_of_isLetterCode {text : String} (h : isLetterCode text = true) :
    text.toList.all Text.isDigit = false := by
  simp only [isLetterCode, Bool.and_eq_true, Bool.not_eq_true'] at h
  obtain ⟨⟨hne, -⟩, hletters⟩ := h
  cases htext : text.toList with
  | nil => rw [htext] at hne; cases hne
  | cons c cs =>
    rw [htext, List.all_cons, Bool.and_eq_true] at hletters
    rw [List.all_cons, Text.isDigit_of_isAsciiLetter hletters.1, Bool.false_and]

end Column

namespace ColumnRef
variable {width i : Nat} {name : String}

theorem resolveText_of_isNumeral {text : String} (h : Column.isNumeral text = true) (headers : Headers)
    (w : Option Nat) : resolveText headers w text = .ok (some (Text.numeralValue text.toList)) := by
  simp only [Column.isNumeral, Bool.and_eq_true, Bool.not_eq_true', decide_eq_true_eq] at h
  obtain ⟨⟨hne, hdigits⟩, hshort⟩ := h
  simp only [resolveText, hne, hdigits, Nat.not_lt.mpr hshort, Bool.false_eq_true, if_true, if_false]

theorem resolveText_of_isLetterCode {text : String} (h : Column.isLetterCode text = true)
    (hindex : Column.indexOf text = .ok i) (hi : i < width) (headers : Headers) :
    resolveText headers (some width) text = .ok (some i) := by
  have hdigits := Column.not_all_isDigit_of_isLetterCode h
  simp only [Column.isLetterCode, Bool.and_eq_true, Bool.not_eq_true'] at h
  obtain ⟨⟨hne, -⟩, hletters⟩ := h
  simp only [resolveText, hne, hdigits, hletters, hindex, Option.all_some, hi, decide_true,
    Bool.false_eq_true, if_true, if_false]

/-- **Whatever the headers are, a column named by its place is found.** -/
theorem resolve_of_place? (h : Column.place? width name = some i) (headers : Headers) :
    (ColumnRef.text name).resolve headers (some width) = .ok (some i) := by
  rw [resolve]
  rw [Column.place?] at h
  split at h
  · next hnumeral => rw [resolveText_of_isNumeral hnumeral, h]
  · split at h
    · next hcode =>
      obtain ⟨hindex, hi⟩ := Option.filter_eq_some_iff.mp h
      refine resolveText_of_isLetterCode hcode ?_ (of_decide_eq_true hi) headers
      cases hread : Column.indexOf (Text.trim name) with
      | error e =>
        rw [hread] at hindex
        cases hindex
      | ok j =>
        rw [hread] at hindex
        rw [Option.some.inj hindex]
    · cases h

/-- Among the columns of the matrix such a name stands for that one only, if the matrix has it. -/
theorem column?_eq_some_iff_of_place? (h : Column.place? width name = some i) {headers : Headers}
    {j : Nat} : (ColumnRef.text name).column? headers width = some j ↔ j < width ∧ i = j := by
  simp only [column?, resolve_of_place? h, Option.ite_none_right_eq_some, Option.some.injEq]
  exact and_congr_left fun he => he ▸ Iff.rfl

/-- Nor do the headers matter for a complaint about such a name. -/
theorem complaint?_congr (h : Column.place? width name = some i) (headers headers' : Headers) :
    (ColumnRef.text name).complaint? headers width = (ColumnRef.text name).complaint? headers' width := by
  simp only [complaint?, resolve_of_place? h]

end ColumnRef

end Sheetflow
