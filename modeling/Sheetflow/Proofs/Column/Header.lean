import Mathlib.Data.List.TakeWhile
import Sheetflow.Column.Header
import Sheetflow.Proofs.Matrix

/-!
# The columns that headers name

`Headers.AreOf hs header`: what `hs` has for a text is the first column of the row
`header` with this text, and no column if the text is empty.  The headers of a
matrix are those of its first row (`Headers.areOf_ofMatrix`), and they stay so
when a column is added at the end (`Headers.AreOf.concat`).

A blank header is passed over when headers are collected; its text is the only
one that becomes empty when it is trimmed and written in lower case
(`Cell.key_eq_empty_iff`).
-/

namespace Sheetflow

/-! ### Empty header texts -/

namespace Text

theorem lowerAfter_eq_nil_iff (before cs : List Char) : lowerAfter before cs = [] ↔ cs = [] := by
  cases cs with
  | nil => simp [lowerAfter]
  | cons c cs =>
    rw [lowerAfter]
    split_ifs <;> simp

theorem lower_eq_empty_iff (s : String) : lower s = "" ↔ s = "" := by
  rw [lower, ← String.ofList_nil, String.ofList_inj, lowerAfter_eq_nil_iff, String.ofList_nil,
    String.toList_eq_nil_iff]

theorem trim_eq_empty_iff (s : String) : trim s = "" ↔ isBlankText s = true := by
  rw [trim, ← String.ofList_nil, String.ofList_inj, isBlankText, List.all_eq_true, trimEnd,
    trimStart, List.reverse_eq_nil_iff, List.dropWhile_eq_nil_iff]
  constructor
  · intro h c hc
    rw [← List.takeWhile_append_dropWhile (p := isBlank) (l := s.toList)] at hc
    rcases List.mem_append.mp hc with hc | hc
    · exact List.mem_takeWhile_imp hc
    · exact h c (List.mem_reverse.mpr hc)
  · intro h c hc
    exact h c ((List.dropWhile_suffix isBlank).subset (List.mem_reverse.mp hc))

end Text

theorem Cell.key_eq_empty_iff (c : Cell) : c.key = "" ↔ c.isBlank = true :=
  (Text.lower_eq_empty_iff _).trans (Text.trim_eq_empty_iff _)

/-! ### First columns -/

-- From here on header texts are only compared; unfolded, they would be read character by character.
attribute [local irreducible] normalText

namespace Row

/-- Column `i` of a header row is the first with a header text. -/
def IsFirst (header : Row) (key : String) (i : Nat) : Prop :=
  i < header.length ∧ (header.cell i).key = key ∧ ∀ k < i, (header.cell k).key ≠ key

theorem IsFirst.unique {header : Row} {key : String} {i j : Nat} (hi : header.IsFirst key i)
    (hj : header.IsFirst key j) : i = j := by
  rcases Nat.lt_trichotomy i j with h | h | h
  · exact absurd hi.2.1 (hj.2.2 i h)
  · exact h
  · exact absurd hj.2.1 (hi.2.2 j h)

/-- More columns at the end do not change which column is the first, if there is one. -/
theorem isFirst_append {header : Row} (more : Row) {key : String} {i : Nat}
    (hi : i < header.length) : IsFirst (header ++ more) key i ↔ header.IsFirst key i := by
  have hc : ∀ k ≤ i, cell (header ++ more) k = header.cell k :=
    fun k hk => cell_append_left (Nat.lt_of_le_of_lt hk hi)
  constructor
  · rintro ⟨-, h1, h2⟩
    exact ⟨hi, hc i (Nat.le_refl i) ▸ h1, fun k hk => hc k (Nat.le_of_lt hk) ▸ h2 k hk⟩
  · rintro ⟨-, h1, h2⟩
    refine ⟨?_, (hc i (Nat.le_refl i)).symm ▸ h1,
      fun k hk => (hc k (Nat.le_of_lt hk)).symm ▸ h2 k hk⟩
    rw [List.length_append]
    omega

theorem IsFirst.append {header : Row} {key : String} {i : Nat} (h : header.IsFirst key i)
    (more : Row) : IsFirst (header ++ more) key i := (isFirst_append more h.1).mpr h

/-- A header text that heads a column has a first column. -/
theorem exists_isFirst {header : Row} {key : String} {i : Nat} (hi : i < header.length)
    (hk : (header.cell i).key = key) : ∃ k, header.IsFirst key k := by
  induction i using Nat.strongRecOn with
  | ind i ih =>
    by_cases h : ∃ k < i, (header.cell k).key = key
    · obtain ⟨k, hki, hkk⟩ := h
      exact ih k hki (Nat.lt_trans hki hi) hkk
    · exact ⟨i, hi, hk, fun k hki hkk => h ⟨k, hki, hkk⟩⟩

/-- One more column is the first with its text if no column had it before. -/
theorem isFirst_append_singleton {header : Row} {c : Cell} {key : String} {i : Nat} :
    IsFirst (header ++ [c]) key i ↔ header.IsFirst key i ∨
      (i = header.length ∧ c.key = key ∧ ¬ ∃ k, header.IsFirst key k) := by
  constructor
  · intro h
    by_cases hi : i < header.length
    · exact .inl ((isFirst_append [c] hi).mp h)
    · have hlen := h.1
      rw [List.length_append, List.length_singleton] at hlen
      obtain rfl : i = header.length := by omega
      refine .inr ⟨rfl, ?_, ?_⟩
      · rw [← h.2.1, cell_append_self]
      · rintro ⟨k, hk⟩
        exact absurd (h.unique (hk.append [c])) (Nat.ne_of_gt hk.1)
  · rintro (h | ⟨rfl, hk, hn⟩)
    · exact h.append [c]
    · refine ⟨?_, by rw [cell_append_self, hk], fun k hlt he => hn ?_⟩
      · rw [List.length_append]
        exact Nat.lt_succ_self _
      · rw [cell_append_left hlt] at he
        exact exists_isFirst hlt he

end Row

/-! ### Collecting headers -/

namespace Headers

/-- What the headers have for a text that is not empty is its first column. -/
def AreOf (hs : Headers) (header : Row) : Prop :=
  ∀ key i, hs.find? key = some i ↔ key ≠ "" ∧ header.IsFirst key i

theorem find?_insertNew (hs : Headers) (key other : String) (i : Nat) :
    (hs.insertNew key i).find? other =
      (hs.find? other).or (if other = key then some i else none) := by
  rw [insertNew]
  split
  · rename_i h
    by_cases hk : other = key
    · obtain ⟨x, hx⟩ := Option.isSome_iff_exists.mp (hk ▸ h)
      rw [hx, Option.some_or]
    · rw [if_neg hk, Option.or_none]
  · rw [find?, find?, List.lookup_append, List.lookup_cons, List.lookup_nil]
    by_cases hk : other = key
    · rw [beq_iff_eq.mpr hk, if_pos hk]
    · rw [beq_eq_false_iff_ne.mpr hk, if_neg hk]

/-- One more column at the end. -/
theorem AreOf.concat {hs : Headers} {header : Row} (h : hs.AreOf header) (c : Cell) :
    AreOf (if c.isBlank then hs else hs.insertNew c.key header.length) (header ++ [c]) := by
  intro key i
  rw [Row.isFirst_append_singleton]
  by_cases hb : c.isBlank
  · have hk : c.key = "" := c.key_eq_empty_iff.mpr hb
    rw [if_pos hb, h key i]
    refine and_congr_right fun hne => (or_iff_left ?_).symm
    rintro ⟨-, he, -⟩
    exact hne (he.symm.trans hk)
  · have hk : c.key ≠ "" := fun he => hb (c.key_eq_empty_iff.mp he)
    rw [if_neg hb, find?_insertNew]
    cases hl : hs.find? key with
    | some j =>
      obtain ⟨hne, hj⟩ := (h key j).mp hl
      rw [Option.some_or, Option.some.injEq]
      constructor
      · rintro rfl
        exact ⟨hne, .inl hj⟩
      · rintro ⟨-, hi | ⟨-, -, hn⟩⟩
        · exact hj.unique hi
        · exact absurd ⟨j, hj⟩ hn
    | none =>
      have hn : key ≠ "" → ¬ ∃ k, header.IsFirst key k := by
        rintro hne ⟨k, hf⟩
        rw [(h key k).mpr ⟨hne, hf⟩] at hl
        cases hl
      rw [Option.none_or, Option.ite_none_right_eq_some, Option.some.injEq]
      constructor
      · rintro ⟨rfl, rfl⟩
        exact ⟨hk, .inr ⟨rfl, rfl, hn hk⟩⟩
      · rintro ⟨hne, hi | ⟨rfl, rfl, -⟩⟩
        · exact absurd ⟨i, hi⟩ (hn hne)
        · exact ⟨rfl, rfl⟩

theorem AreOf.addRow {hs : Headers} {done : Row} (h : hs.AreOf done) (rest : Row) :
    (hs.addRow done.length rest).AreOf (done ++ rest) := by
  induction rest generalizing hs done with
  | nil =>
    rw [List.append_nil]
    exact h
  | cons c rest ih =>
    have := ih (h.concat c)
    rw [List.length_append, List.length_singleton, List.append_assoc, List.singleton_append] at this
    rwa [Headers.addRow]

theorem areOf_addRow (header : Row) : (addRow [] 0 header).AreOf header := by
  have hnil : AreOf [] [] := by
    intro key i
    constructor
    · intro h
      cases h
    · rintro ⟨-, h, -⟩
      exact absurd h (Nat.not_lt_zero i)
  exact hnil.addRow header

/-- **The headers of a matrix are the first columns of the texts in its first row.** -/
theorem areOf_ofMatrix (m : Matrix) : (ofMatrix m).AreOf (m.head?.getD []) := areOf_addRow _

end Headers

end Sheetflow
