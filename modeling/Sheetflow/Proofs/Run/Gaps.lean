import Mathlib.Algebra.BigOperators.Intervals
import Mathlib.Data.Set.Card
import Sheetflow.Proofs.Column.Resolution
import Sheetflow.Proofs.Matrix
import Sheetflow.Proofs.Run.Steps

/-!
# Gaps and what fills them

A gap is a blank cell below the first row.  It is filled from its source, the nearest cell of its column
that is not blank, above it or below it (`Matrix.IsSource`), and stays if there is none.

Filling looks at one column after the other and at each from its end on.  `taken?` says what a row takes
when a column is gone through, and `Matrix.filling?_eq_some_iff` says of it that it is the source.
Columns do not disturb each other: a row is lengthened on the way, but the cells that it gets are
empty.  So each cell is filled as in the matrix at the start (`getElem?_fillColumns`), where a
second time nothing is left to be filled (`FillsGaps.settled`).
-/

namespace Sheetflow

/-! ### Cells put into rows -/

namespace Row

theorem length_put (row : Row) (i : Nat) (c : Cell) : (row.put i c).length = max row.length (i + 1) := by
  rw [put, List.length_set, length_pad]

theorem cell_put_self (row : Row) (i : Nat) (c : Cell) : (row.put i c).cell i = c :=
  cell_set_self (by rw [length_pad]; omega) c

theorem cell_put_of_ne (row : Row) {i k : Nat} (h : i ≠ k) (c : Cell) :
    (row.put i c).cell k = row.cell k := by
  rw [put, cell_set_of_ne _ h, cell_pad]

/-- Put values into columns, as far as there are values for them. -/
def putAll (row : Row) (values : Nat → Option Cell) (cols : List Nat) : Row :=
  cols.foldl (fun row col => (values col).elim row (row.put col)) row

variable {row : Row} {values : Nat → Option Cell} {cols : List Nat}

theorem putAll_concat (row : Row) (values : Nat → Option Cell) (cols : List Nat) (col : Nat) :
    row.putAll values (cols ++ [col]) =
      (values col).elim (row.putAll values cols) ((row.putAll values cols).put col) := by
  rw [putAll, List.foldl_append]
  rfl

theorem cell_putAll (row : Row) (values : Nat → Option Cell) (cols : List Nat) (j : Nat) :
    (row.putAll values cols).cell j =
      if j ∈ cols then (values j).getD (row.cell j) else row.cell j := by
  induction cols using List.reverseRecOn with
  | nil => rfl
  | append_singleton cols col ih =>
    rw [putAll_concat]
    by_cases hj : j = col
    · subst hj
      rw [if_pos (by simp)]
      cases hv : values j with
      | some c => exact cell_put_self _ _ _
      | none =>
        rw [Option.elim_none, ih, hv]
        exact ite_self _
    · have hmem : j ∈ cols ++ [col] ↔ j ∈ cols := by simp [hj]
      simp only [hmem]
      cases hv : values col with
      | some c => rw [Option.elim_some, cell_put_of_ne _ (Ne.symm hj), ih]
      | none => exact ih

/-- A row becomes no longer than is needed for the last cell that was put into it. -/
theorem length_putAll_cases (row : Row) (values : Nat → Option Cell) (cols : List Nat) :
    (row.putAll values cols).length = row.length ∨
      ∃ col ∈ cols, (values col).isSome = true ∧ row.length ≤ col ∧
        (row.putAll values cols).length = col + 1 := by
  induction cols using List.reverseRecOn with
  | nil => exact .inl rfl
  | append_singleton cols col ih =>
    rw [putAll_concat]
    have hbefore : (row.putAll values cols).length = row.length ∨
        ∃ k ∈ cols ++ [col], (values k).isSome = true ∧ row.length ≤ k ∧
          (row.putAll values cols).length = k + 1 :=
      ih.imp_right fun ⟨k, hk, hrest⟩ => ⟨k, List.mem_append_left _ hk, hrest⟩
    cases hv : values col with
    | none => exact hbefore
    | some c =>
      rw [Option.elim_some, length_put]
      by_cases hlong : col + 1 ≤ (row.putAll values cols).length
      · rw [Nat.max_eq_left hlong]
        exact hbefore
      · refine .inr ⟨col, by simp, by rw [hv]; rfl, ?_, by omega⟩
        obtain h | ⟨k, -, -, hk, h⟩ := ih <;> omega

theorem putAll_of_forall_none (h : ∀ col ∈ cols, values col = none) : row.putAll values cols = row := by
  induction cols using List.reverseRecOn with
  | nil => rfl
  | append_singleton cols col ih =>
    rw [putAll_concat, h col (by simp), Option.elim_none]
    exact ih fun k hk => h k (List.mem_append_left _ hk)

end Row

/-! ### Sources of gaps -/

/-- Is a row gone through before another? -/
def Direction.Before : Direction → Nat → Nat → Prop
  | .down, k, i => k < i
  | .up, k, i => i < k

theorem Direction.Before.trans {d : Direction} {k j i : Nat} (hkj : d.Before k j)
    (hji : d.Before j i) : d.Before k i := by
  cases d with
  | down => exact Nat.lt_trans hkj hji
  | up => exact Nat.lt_trans hji hkj

namespace Matrix

/-- Row `k` is the nearest row before row `i` with a cell in the column that is not blank. -/
structure IsSource (d : Direction) (m : Matrix) (col i k : Nat) : Prop where
  before : d.Before k i
  value : (m.cell k col).isBlank = false
  nearest : ∀ j, d.Before k j → d.Before j i → (m.cell j col).isBlank = true

/-- A blank cell below the first row for which there is a source, in one of the columns. -/
structure IsFilled (d : Direction) (m : Matrix) (cols : List Nat) (i col : Nat) : Prop where
  column : col ∈ cols
  notFirst : 0 < i
  inside : i < m.length
  blank : (m.cell i col).isBlank = true
  source : ∃ k, m.IsSource d col i k

variable {d : Direction} {m m' : Matrix} {col i k : Nat}

/-- Past the last row all cells are blank. -/
theorem lt_of_not_isBlank (h : (m.cell i col).isBlank = false) : i < m.length := by
  refine Nat.lt_of_not_le fun hi => ?_
  rw [cell, List.getElem?_eq_none hi] at h
  have hempty : Row.cell [] col = .empty := rfl
  rw [Option.getD_none, hempty, Cell.isBlank_empty] at h
  cases h

/-- Of the values before a cell one is the nearest. -/
theorem exists_isSource (hk : d.Before k i) (hv : (m.cell k col).isBlank = false) :
    ∃ l, m.IsSource d col i l := by
  -- induction on how far the value is away
  obtain ⟨n, hn⟩ : ∃ n, n = max k i - min k i := ⟨_, rfl⟩
  induction n using Nat.strong_induction_on generalizing k with
  | _ n ih =>
    by_cases hnear : ∀ j, d.Before k j → d.Before j i → (m.cell j col).isBlank = true
    · exact ⟨k, hk, hv, hnear⟩
    · push Not at hnear
      obtain ⟨j, hkj, hji, hj⟩ := hnear
      refine ih _ ?_ hji (Bool.eq_false_iff.mpr hj) rfl
      cases d <;> simp only [Direction.Before] at hk hkj hji <;> omega

theorem IsSource.congr (h : m.IsSource d col i k) (hcells : ∀ j, m'.cell j col = m.cell j col) :
    m'.IsSource d col i k :=
  ⟨h.before, by rw [hcells]; exact h.value, fun j hkj hji => by rw [hcells]; exact h.nearest j hkj hji⟩

/-- Going down one row more, the source is the first row only if nothing stands between. -/
theorem isSource_cons (row : Row) (m : Matrix) (col i k : Nat) :
    IsSource .down (row :: m) col (i + 1) k ↔
      (∃ l, k = l + 1 ∧ m.IsSource .down col i l) ∨
        k = 0 ∧ (row.cell col).isBlank = false ∧ ∀ j < i, (m.cell j col).isBlank = true := by
  constructor
  · intro h
    cases k with
    | zero =>
      exact .inr ⟨rfl, h.value, fun j hj => h.nearest (j + 1) (Nat.succ_pos j) (Nat.succ_lt_succ hj)⟩
    | succ l =>
      refine .inl ⟨l, rfl, Nat.lt_of_succ_lt_succ h.before, h.value, fun j hlj hji => ?_⟩
      exact h.nearest (j + 1) (Nat.succ_lt_succ hlj) (Nat.succ_lt_succ hji)
  · rintro (⟨l, rfl, h⟩ | ⟨rfl, hv, hbetween⟩)
    · refine ⟨Nat.succ_lt_succ h.before, h.value, fun j hlj hji => ?_⟩
      cases j with
      | zero => exact absurd hlj (Nat.not_lt_zero _)
      | succ j => exact h.nearest j (Nat.lt_of_succ_lt_succ hlj) (Nat.lt_of_succ_lt_succ hji)
    · refine ⟨Nat.succ_pos i, hv, fun j hj hji => ?_⟩
      cases j with
      | zero => exact absurd hj (Nat.lt_irrefl 0)
      | succ j => exact hbetween j (Nat.lt_of_succ_lt_succ hji)

theorem exists_isSource_cons {c : Cell} (row : Row) (m : Matrix) (col i : Nat) :
    (∃ k, IsSource .down (row :: m) col (i + 1) k ∧ cell (row :: m) k col = c) ↔
      (∃ k, m.IsSource .down col i k ∧ m.cell k col = c) ∨
        (row.cell col).isBlank = false ∧ (∀ j < i, (m.cell j col).isBlank = true) ∧
          row.cell col = c := by
  simp only [isSource_cons]
  constructor
  · rintro ⟨k, ⟨l, rfl, hl⟩ | ⟨rfl, hv, hbetween⟩, hc⟩
    · exact .inl ⟨l, hl, hc⟩
    · exact .inr ⟨hv, hbetween, hc⟩
  · rintro (⟨l, hl, hc⟩ | ⟨hv, hbetween, hc⟩)
    · exact ⟨l + 1, .inl ⟨l, rfl, hl⟩, hc⟩
    · exact ⟨0, .inr ⟨rfl, hv, hbetween⟩, hc⟩

/-- Going up is going down in the reversed matrix. -/
theorem cell_reverse (hi : i < m.length) (col : Nat) :
    cell m.reverse (m.length - 1 - i) col = m.cell i col := by
  rw [cell, List.getElem?_reverse (by omega), cell]
  congr 3
  omega

theorem isSource_reverse (hi : i < m.length) (hk : k < m.length) :
    IsSource .down m.reverse col (m.length - 1 - i) (m.length - 1 - k) ↔ m.IsSource .up col i k := by
  constructor
  · intro h
    have hbefore : m.length - 1 - k < m.length - 1 - i := h.before
    refine ⟨by show i < k; omega, by rw [← cell_reverse hk]; exact h.value, fun j hkj hji => ?_⟩
    have hkj : j < k := hkj
    have hji : i < j := hji
    rw [← cell_reverse (by omega)]
    exact h.nearest _ (by show _ < _; omega) (by show _ < _; omega)
  · intro h
    have hbefore : i < k := h.before
    refine ⟨by show _ < _; omega, by rw [cell_reverse hk]; exact h.value, fun j hkj hji => ?_⟩
    have hkj : m.length - 1 - k < j := hkj
    have hji : j < m.length - 1 - i := hji
    have hj : j = m.length - 1 - (m.length - 1 - j) := by omega
    rw [hj, cell_reverse (by omega)]
    exact h.nearest _ (by show _ < _; omega) (by show _ < _; omega)

end Matrix

/-! ### One column -/

theorem length_eq_of_getElem? {α β : Type} {l : List α} {l' : List β} {f : Nat → α → β}
    (h : ∀ i, l'[i]? = l[i]?.map (f i)) : l'.length = l.length := by
  refine Nat.le_antisymm ?_ ?_
  · rw [← List.getElem?_eq_none_iff, h, List.getElem?_eq_none (Nat.le_refl _), Option.map_none]
  · rw [← List.getElem?_eq_none_iff, ← Option.map_eq_none_iff, ← h,
      List.getElem?_eq_none (Nat.le_refl _)]

/-- What the `i`-th of some rows takes into a column; the rows are given in the order of filling. -/
def taken? (col : Nat) (carry : Option Cell) : List (Bool × Row) → Nat → Option Cell
  | [], _ => none
  | (mayTake, row) :: _, 0 => if mayTake && (row.cell col).isBlank then carry else none
  | (_, row) :: rest, i + 1 =>
    taken? col (if (row.cell col).isBlank then carry else some (row.cell col)) rest i

section Column
variable {col : Nat} {carry : Option Cell} {rows : List (Bool × Row)}

theorem getElem?_fillRows (col : Nat) (carry : Option Cell) (rows : List (Bool × Row)) (i : Nat) :
    (fillRows col carry rows).rows[i]? =
      rows[i]?.map fun r => (taken? col carry rows i).elim r.2 (r.2.put col) := by
  induction rows generalizing carry i with
  | nil => rfl
  | cons r rest ih =>
    obtain ⟨mayTake, row⟩ := r
    rw [fillRows]
    by_cases hblank : (row.cell col).isBlank = true
    · cases i with
      | zero => cases carry <;> cases mayTake <;> simp [hblank, taken?]
      | succ i => cases carry <;> cases mayTake <;> simp [hblank, taken?, ih]
    · cases i with
      | zero => simp [hblank, taken?]
      | succ i => simp [hblank, taken?, ih]

theorem length_fillRows (col : Nat) (carry : Option Cell) (rows : List (Bool × Row)) :
    (fillRows col carry rows).rows.length = rows.length :=
  length_eq_of_getElem? (getElem?_fillRows col carry rows)

theorem count_fillRows (col : Nat) (carry : Option Cell) (rows : List (Bool × Row)) :
    (fillRows col carry rows).count =
      ∑ i ∈ Finset.range rows.length, if (taken? col carry rows i).isSome then 1 else 0 := by
  induction rows generalizing carry with
  | nil => rfl
  | cons r rest ih =>
    obtain ⟨mayTake, row⟩ := r
    rw [fillRows, List.length_cons, Finset.sum_range_succ']
    by_cases hblank : (row.cell col).isBlank = true
    · cases carry <;> cases mayTake <;> simp [hblank, taken?, ih]
    · simp [hblank, taken?, ih]

/-- A row that may take a value into a blank cell takes that of the last row before that has one. -/
theorem taken?_eq_some_iff {i : Nat} {c : Cell} :
    taken? col carry rows i = some c ↔
      (∃ row, rows[i]? = some (true, row) ∧ (row.cell col).isBlank = true) ∧
        ((∃ k, Matrix.IsSource .down (rows.map (·.2)) col i k ∧
            Matrix.cell (rows.map (·.2)) k col = c) ∨
          carry = some c ∧ ∀ j < i, (Matrix.cell (rows.map (·.2)) j col).isBlank = true) := by
  induction rows generalizing carry i with
  | nil => simp [taken?]
  | cons r rest ih =>
    obtain ⟨mayTake, row⟩ := r
    cases i with
    | zero =>
      have hnone : ¬ ∃ k, Matrix.IsSource .down (row :: rest.map (·.2)) col 0 k ∧
          Matrix.cell (row :: rest.map (·.2)) k col = c :=
        fun ⟨_, hk, _⟩ => Nat.not_lt_zero _ hk.before
      cases mayTake <;> cases hblank : (row.cell col).isBlank <;> simp [taken?, hblank, hnone]
    | succ i =>
      have hbefore : (∀ j < i + 1, (Matrix.cell (row :: rest.map (·.2)) j col).isBlank = true) ↔
          (row.cell col).isBlank = true ∧
            ∀ j < i, (Matrix.cell (rest.map (·.2)) j col).isBlank = true := by
        rw [Nat.forall_lt_succ_left]
        rfl
      rw [taken?, ih, List.getElem?_cons_succ, List.map_cons, Matrix.exists_isSource_cons, hbefore]
      refine and_congr_right fun _ => ?_
      cases hblank : (row.cell col).isBlank <;> simp [and_comm]

end Column

theorem getElem?_markTakers (m : Matrix) (i : Nat) :
    (markTakers m)[i]? = m[i]?.map fun row => (decide (0 < i), row) := by
  cases m with
  | nil => rfl
  | cons row m =>
    cases i with
    | zero => rfl
    | succ i =>
      rw [markTakers, List.getElem?_cons_succ, List.getElem?_cons_succ, List.getElem?_map]
      simp

theorem length_markTakers (m : Matrix) : (markTakers m).length = m.length := by
  cases m with
  | nil => rfl
  | cons row m => rw [markTakers, List.length_cons, List.length_map, List.length_cons]

theorem getElem?_reverse_markTakers {m : Matrix} {i : Nat} (h : i < m.length) :
    (markTakers m).reverse[m.length - 1 - i]? = m[i]?.map fun row => (decide (0 < i), row) := by
  rw [List.getElem?_reverse (by rw [length_markTakers]; omega), length_markTakers,
    ← getElem?_markTakers]
  congr 1
  omega

theorem map_snd_markTakers (m : Matrix) : (markTakers m).map (·.2) = m := by
  refine List.ext_getElem? fun i => ?_
  rw [List.getElem?_map, getElem?_markTakers]
  cases m[i]? <;> rfl

namespace Matrix
variable {d : Direction} {m m' : Matrix} {col i : Nat}

/-- What a cell is filled with. -/
def filling? (d : Direction) (m : Matrix) (col i : Nat) : Option Cell :=
  match d with
  | .down => taken? col none (markTakers m) i
  | .up => if i < m.length then taken? col none (markTakers m).reverse (m.length - 1 - i) else none

theorem exists_taker_iff :
    (∃ row, (markTakers m)[i]? = some (true, row) ∧ (row.cell col).isBlank = true) ↔
      0 < i ∧ i < m.length ∧ (m.cell i col).isBlank = true := by
  rw [getElem?_markTakers, cell]
  by_cases hi : i < m.length
  · simp [hi]
  · simp [hi]

/-- **A cell is filled from its source**, if it is a gap and there is one. -/
theorem filling?_eq_some_iff {c : Cell} :
    m.filling? d col i = some c ↔
      (0 < i ∧ i < m.length ∧ (m.cell i col).isBlank = true) ∧
        ∃ k, m.IsSource d col i k ∧ m.cell k col = c := by
  cases d with
  | down =>
    rw [filling?, taken?_eq_some_iff, exists_taker_iff, map_snd_markTakers]
    simp
  | up =>
    rw [filling?]
    by_cases hi : i < m.length
    · rw [if_pos hi, taken?_eq_some_iff, getElem?_reverse_markTakers hi, ← getElem?_markTakers,
        exists_taker_iff, List.map_reverse, map_snd_markTakers]
      simp only [reduceCtorEq, false_and, or_false]
      refine and_congr_right fun _ => ⟨?_, ?_⟩
      · rintro ⟨k, hk, hc⟩
        have hlt : k < m.length - 1 - i := hk.before
        have he : k = m.length - 1 - (m.length - 1 - k) := by omega
        rw [he] at hk hc
        rw [cell_reverse (by omega)] at hc
        exact ⟨m.length - 1 - k, (isSource_reverse hi (by omega)).mp hk, hc⟩
      · rintro ⟨k, hk, hc⟩
        have hlt := lt_of_not_isBlank hk.value
        exact ⟨m.length - 1 - k, (isSource_reverse hi hlt).mpr hk, by rw [cell_reverse hlt, hc]⟩
    · rw [if_neg hi]
      exact ⟨nofun, fun h => absurd h.1.2.1 hi⟩

theorem filling?_isSome_iff {cols : List Nat} (hcol : col ∈ cols) :
    (m.filling? d col i).isSome = true ↔ m.IsFilled d cols i col := by
  rw [Option.isSome_iff_exists]
  constructor
  · rintro ⟨c, hc⟩
    obtain ⟨⟨hpos, hlt, hblank⟩, k, hk, -⟩ := filling?_eq_some_iff.mp hc
    exact ⟨hcol, hpos, hlt, hblank, k, hk⟩
  · intro h
    obtain ⟨k, hk⟩ := h.source
    exact ⟨_, filling?_eq_some_iff.mpr ⟨⟨h.notFirst, h.inside, h.blank⟩, k, hk, rfl⟩⟩

/-- What a column is filled with depends on that column only. -/
theorem filling?_congr (hlength : m'.length = m.length) (hcells : ∀ j, m'.cell j col = m.cell j col)
    (d : Direction) (i : Nat) : m'.filling? d col i = m.filling? d col i := by
  refine Option.ext fun c => ?_
  rw [filling?_eq_some_iff, filling?_eq_some_iff, hlength, hcells]
  refine and_congr_right fun _ => exists_congr fun k => ?_
  rw [hcells]
  exact and_congr_left fun _ => ⟨fun h => h.congr fun j => (hcells j).symm, fun h => h.congr hcells⟩

end Matrix

theorem getElem?_fillColumn (d : Direction) (m : Matrix) (col i : Nat) :
    (fillColumn d m col).rows[i]? =
      m[i]?.map fun row => (m.filling? d col i).elim row (row.put col) := by
  cases d with
  | down =>
    rw [fillColumn, getElem?_fillRows, getElem?_markTakers, Matrix.filling?, Option.map_map]
    rfl
  | up =>
    have hlength : (fillRows col none (markTakers m).reverse).rows.length = m.length := by
      rw [length_fillRows, List.length_reverse, length_markTakers]
    rw [fillColumn, Matrix.filling?]
    by_cases hi : i < m.length
    · rw [if_pos hi, List.getElem?_reverse (by rwa [hlength]), hlength, getElem?_fillRows,
        getElem?_reverse_markTakers hi, Option.map_map]
      rfl
    · rw [List.getElem?_eq_none (by rw [List.length_reverse, hlength]; omega),
        List.getElem?_eq_none (Nat.le_of_not_lt hi)]
      rfl

/-- As many cells of a column are filled as there is something for. -/
theorem count_fillColumn (d : Direction) (m : Matrix) (col : Nat) :
    (fillColumn d m col).count =
      ∑ i ∈ Finset.range m.length, if (m.filling? d col i).isSome then 1 else 0 := by
  cases d with
  | down => rw [fillColumn, count_fillRows, length_markTakers]; rfl
  | up =>
    rw [fillColumn, count_fillRows, List.length_reverse, length_markTakers, ← Finset.sum_range_reflect]
    refine Finset.sum_congr rfl fun i hi => ?_
    rw [Matrix.filling?, if_pos (Finset.mem_range.mp hi)]

/-! ### All columns -/

section Columns
variable {d : Direction} {m : Matrix} {cols : List Nat}

theorem fillColumns_concat (d : Direction) (m : Matrix) (cols : List Nat) (col : Nat) :
    fillColumns d m (cols ++ [col]) =
      ⟨(fillColumn d (fillColumns d m cols).rows col).rows,
        (fillColumns d m cols).count + (fillColumn d (fillColumns d m cols).rows col).count⟩ := by
  rw [fillColumns, List.foldl_append]
  rfl

/-- Columns that nothing was put into are to be filled as before. -/
theorem Matrix.filling?_of_putAll {m' : Matrix} {values : Nat → Nat → Option Cell}
    (h : ∀ i, m'[i]? = m[i]?.map fun row => Row.putAll row (values i) cols) {col : Nat}
    (hcol : col ∉ cols) (d : Direction) (i : Nat) : m'.filling? d col i = m.filling? d col i := by
  refine filling?_congr (length_eq_of_getElem? h) (fun j => ?_) d i
  rw [cell, h, cell]
  cases m[j]? with
  | none => rfl
  | some row => exact (Row.cell_putAll _ _ _ _).trans (if_neg hcol)

/-- Each row takes in each column what there is for it in the matrix at the start. -/
theorem getElem?_fillColumns (h : cols.Nodup) (i : Nat) :
    (fillColumns d m cols).rows[i]? =
      m[i]?.map fun row => row.putAll (fun col => m.filling? d col i) cols := by
  induction cols using List.reverseRecOn generalizing i with
  | nil => cases hrow : m[i]? <;> exact hrow
  | append_singleton cols col ih =>
    obtain ⟨hnew, hcols⟩ := (List.nodup_concat cols col).mp (by rwa [List.concat_eq_append])
    rw [fillColumns_concat, getElem?_fillColumn, ih hcols, Option.map_map,
      Matrix.filling?_of_putAll (ih hcols) hnew]
    congr 1
    funext row
    rw [Row.putAll_concat]
    rfl

theorem cell_fillColumns (h : cols.Nodup) (i col : Nat) :
    Matrix.cell (fillColumns d m cols).rows i col =
      if col ∈ cols then (m.filling? d col i).getD (m.cell i col) else m.cell i col := by
  rw [Matrix.cell, getElem?_fillColumns h, Matrix.cell]
  cases hrow : m[i]? with
  | some row => exact Row.cell_putAll row _ cols col
  | none =>
    have hnone : m.filling? d col i = none := by
      refine Option.eq_none_iff_forall_ne_some.mpr fun c hc => ?_
      have hlt := (Matrix.filling?_eq_some_iff.mp hc).1.2.1
      rw [List.getElem?_eq_none_iff] at hrow
      omega
    rw [hnone]
    exact (ite_self _).symm

theorem count_fillColumns_eq_sum (h : cols.Nodup) :
    (fillColumns d m cols).count =
      ∑ col ∈ cols.toFinset, ∑ i ∈ Finset.range m.length, if (m.filling? d col i).isSome then 1 else 0 := by
  rw [List.sum_toFinset _ h]
  induction cols using List.reverseRecOn with
  | nil => rfl
  | append_singleton cols col ih =>
    obtain ⟨hnew, hcols⟩ := (List.nodup_concat cols col).mp (by rwa [List.concat_eq_append])
    rw [fillColumns_concat, ih hcols, count_fillColumn, List.map_append, List.sum_append,
      length_eq_of_getElem? (getElem?_fillColumns hcols)]
    simp only [Matrix.filling?_of_putAll (getElem?_fillColumns hcols) hnew, List.map_singleton,
      List.sum_singleton]

/-- The number that is counted is that of the cells that are filled. -/
theorem count_fillColumns (h : cols.Nodup) :
    (fillColumns d m cols).count = {p : Nat × Nat | m.IsFilled d cols p.1 p.2}.ncard := by
  have hset : {p : Nat × Nat | m.IsFilled d cols p.1 p.2} =
      ((cols.toFinset ×ˢ Finset.range m.length).filter fun p => (m.filling? d p.1 p.2).isSome).map
        (Equiv.prodComm Nat Nat).toEmbedding := by
    ext ⟨i, col⟩
    simp only [Set.mem_ofPred_eq, Finset.coe_map, Set.mem_image, Finset.mem_coe, Finset.mem_filter,
      Finset.mem_product, List.mem_toFinset, Finset.mem_range]
    constructor
    · intro hf
      exact ⟨(col, i), ⟨⟨hf.column, hf.inside⟩, (Matrix.filling?_isSome_iff hf.column).mpr hf⟩, rfl⟩
    · rintro ⟨⟨c, j⟩, ⟨⟨hcol, -⟩, hsome⟩, he⟩
      obtain ⟨rfl, rfl⟩ := Prod.mk.inj he
      exact (Matrix.filling?_isSome_iff hcol).mp hsome
  rw [hset, Set.ncard_coe_finset, Finset.card_map, Finset.card_filter, Finset.sum_product,
    count_fillColumns_eq_sum h]

end Columns

/-! ### A matrix and what becomes of it -/

/-- The second matrix is the first with the gaps of some columns filled. -/
structure FillsGaps (d : Direction) (cols : List Nat) (m m' : Matrix) : Prop where
  length : m'.length = m.length
  first : m'[0]? = m[0]?
  filled : ∀ {i col k}, m.IsFilled d cols i col → m.IsSource d col i k → m'.cell i col = m.cell k col
  kept : ∀ {i col}, ¬ m.IsFilled d cols i col → m'.cell i col = m.cell i col
  notShorter : ∀ {i : Nat} {row row' : Row}, m[i]? = some row → m'[i]? = some row' →
    row.length ≤ row'.length
  longer : ∀ {i : Nat} {row row' : Row}, m[i]? = some row → m'[i]? = some row' →
    row.length < row'.length → m.IsFilled d cols i (row'.length - 1)

theorem fillsGaps_fillColumns {d : Direction} {m : Matrix} {cols : List Nat} (h : cols.Nodup) :
    FillsGaps d cols m (fillColumns d m cols).rows := by
  have hrow {i : Nat} {row row' : Row} (hr : m[i]? = some row)
      (hr' : (fillColumns d m cols).rows[i]? = some row') :
      row' = row.putAll (fun col => m.filling? d col i) cols := by
    rw [getElem?_fillColumns h, hr] at hr'
    exact (Option.some.inj hr').symm
  refine ⟨length_eq_of_getElem? (getElem?_fillColumns h), ?_, ?_, ?_, ?_, ?_⟩
  · rw [getElem?_fillColumns h]
    have hnone (col : Nat) : m.filling? d col 0 = none :=
      Option.eq_none_iff_forall_ne_some.mpr fun c hc =>
        Nat.lt_irrefl 0 (Matrix.filling?_eq_some_iff.mp hc).1.1
    cases m[0]? with
    | none => rfl
    | some row => exact congrArg some (Row.putAll_of_forall_none fun col _ => hnone col)
  · intro i col k hf hk
    have hc := Matrix.filling?_eq_some_iff.mpr ⟨⟨hf.notFirst, hf.inside, hf.blank⟩, k, hk, rfl⟩
    rw [cell_fillColumns h, if_pos hf.column, hc, Option.getD_some]
  · intro i col hf
    rw [cell_fillColumns h]
    split
    · next hcol =>
      rw [← Matrix.filling?_isSome_iff hcol, Option.not_isSome_iff_eq_none] at hf
      rw [hf, Option.getD_none]
    · rfl
  · intro i row row' hr hr'
    rw [hrow hr hr']
    obtain he | ⟨col, -, -, hlt, he⟩ :=
      Row.length_putAll_cases row (fun col => m.filling? d col i) cols <;> omega
  · intro i row row' hr hr' hlonger
    rw [hrow hr hr'] at hlonger ⊢
    obtain he | ⟨col, hcol, hsome, -, he⟩ :=
      Row.length_putAll_cases row (fun col => m.filling? d col i) cols
    · omega
    · rw [he]
      exact (Matrix.filling?_isSome_iff hcol).mp hsome

namespace FillsGaps
variable {d : Direction} {cols : List Nat} {m m' : Matrix}

/-- **Filled gaps leave nothing to be filled.** -/
theorem settled (h : FillsGaps d cols m m') (i col : Nat) : ¬ m'.IsFilled d cols i col := by
  intro hf
  obtain ⟨k, hk⟩ := hf.source
  by_cases hm : m.IsFilled d cols i col
  · -- filled with a value, so not blank now
    obtain ⟨l, hl⟩ := hm.source
    have hblank := hf.blank
    rw [h.filled hm hl, hl.value] at hblank
    cases hblank
  · -- blank before, so without a source; but from the value of row `k` there was one
    have hblank : (m.cell i col).isBlank = true := h.kept hm ▸ hf.blank
    refine hm ⟨hf.column, hf.notFirst, h.length ▸ hf.inside, hblank, ?_⟩
    by_cases hmk : m.IsFilled d cols k col
    · obtain ⟨l, hl⟩ := hmk.source
      refine Matrix.exists_isSource (hl.before.trans hk.before) hl.value
    · exact Matrix.exists_isSource hk.before (h.kept hmk ▸ hk.value)

theorem width_eq (h : FillsGaps d cols m m') (hcols : ∀ col ∈ cols, col < m.width) :
    m'.width = m.width := by
  have hpair {n n' : Matrix} (hl : n'.length = n.length) {i : Nat} {row : Row}
      (hr : n[i]? = some row) : ∃ row', n'[i]? = some row' := by
    obtain ⟨hi, -⟩ := List.getElem?_eq_some_iff.mp hr
    exact ⟨_, List.getElem?_eq_getElem (hl ▸ hi)⟩
  refine Nat.le_antisymm (Matrix.width_le_iff.mpr fun row' hmem => ?_)
    (Matrix.width_le_iff.mpr fun row hmem => ?_)
  · obtain ⟨i, hrow'⟩ := List.mem_iff_getElem?.mp hmem
    obtain ⟨row, hrow⟩ := hpair h.length.symm hrow'
    by_cases hlonger : row.length < row'.length
    · have hlt := hcols _ (h.longer hrow hrow' hlonger).column
      omega
    · exact (Nat.le_of_not_lt hlonger).trans (Matrix.length_le_width (List.mem_of_getElem? hrow))
  · obtain ⟨i, hrow⟩ := List.mem_iff_getElem?.mp hmem
    obtain ⟨row', hrow'⟩ := hpair h.length hrow
    exact (h.notShorter hrow hrow').trans (Matrix.length_le_width (List.mem_of_getElem? hrow'))

theorem headers_eq (h : FillsGaps d cols m m') : Headers.ofMatrix m' = Headers.ofMatrix m := by
  rw [Headers.ofMatrix, Headers.ofMatrix, List.head?_eq_getElem?, List.head?_eq_getElem?, h.first]

end FillsGaps

/-- Where nothing is to be filled, filling leaves everything as it is. -/
theorem fillColumns_of_settled {d : Direction} {m : Matrix} {cols : List Nat} (hnodup : cols.Nodup)
    (h : ∀ i col, ¬ m.IsFilled d cols i col) : fillColumns d m cols = ⟨m, 0⟩ := by
  have hrows : (fillColumns d m cols).rows = m := by
    refine List.ext_getElem? fun i => ?_
    rw [getElem?_fillColumns hnodup]
    cases m[i]? with
    | none => rfl
    | some row =>
      refine congrArg some (Row.putAll_of_forall_none fun col hcol => ?_)
      rw [← Option.not_isSome_iff_eq_none, Matrix.filling?_isSome_iff hcol]
      exact h i col
  have hcount : (fillColumns d m cols).count = 0 := by
    rw [count_fillColumns hnodup]
    simp [h]
  calc fillColumns d m cols = ⟨(fillColumns d m cols).rows, (fillColumns d m cols).count⟩ := rfl
    _ = ⟨m, 0⟩ := by rw [hrows, hcount]

/-! ### The rule -/

/-- What the filling of gaps reports. -/
def fillReport (filled : Nat) (d : Direction) (columns : Nat) : String :=
  "Filled " ++ toString filled ++ " empty cell(s) " ++ d.word ++ " in " ++ toString columns ++
    " column(s)"

section Rule
variable {s : RunState} {names : List String} {d : Direction} {o : Outcome}

theorem applyFill_eq_ok_iff :
    applyFill s names d = .ok o ↔
      ∃ r, resolveNames s.headers s.width names = .ok r ∧
        o = .done (s.withMatrix (fillColumns d s.matrix r.columns).rows)
          (fillReport (fillColumns d s.matrix r.columns).count d r.columns.length) r.warnings := by
  rw [applyFill]
  cases resolveNames s.headers s.width names with
  | error e => exact ⟨nofun, nofun⟩
  | ok r =>
    constructor
    · exact fun h => ⟨r, rfl, (Except.ok.inj h).symm⟩
    · rintro ⟨_, hr, rfl⟩
      obtain rfl := Except.ok.inj hr
      rfl

/-- **Filling fills the gaps that have a source, and nothing else.**  In the columns that the names
resolve to, a blank cell below the first row gets the value of the nearest cell that is not blank, above
it or below it; all other cells read as before, the first row is the same and a row is lengthened only
up to a cell that was filled.  The report counts the filled cells.  The same rule applied again, to
headers that are those of the matrix as always in a run, fills nothing and changes nothing. -/
theorem applyFill_fills_gaps (h : applyFill s names d = .ok o) :
    ∃ r, resolveNames s.headers s.width names = .ok r ∧
      FillsGaps d r.columns s.matrix o.state.matrix ∧
      o = .done (s.withMatrix o.state.matrix)
        (fillReport {p : Nat × Nat | s.matrix.IsFilled d r.columns p.1 p.2}.ncard d r.columns.length)
        r.warnings ∧
      (s.headers = .ofMatrix s.matrix →
        applyFill o.state names d = .ok (.done o.state (fillReport 0 d r.columns.length) r.warnings)) := by
  obtain ⟨r, hr, rfl⟩ := applyFill_eq_ok_iff.mp h
  have hfits := fits_of_resolveNames hr
  have hfills := fillsGaps_fillColumns (d := d) (m := s.matrix) hfits.nodup
  rw [count_fillColumns hfits.nodup]
  generalize (fillColumns d s.matrix r.columns).rows = m' at hfills
  have hmatrix : (s.withMatrix m').matrix = m' := by
    refine RunState.matrix_withMatrix fun hempty => List.eq_nil_of_length_eq_zero ?_
    rw [hfills.length, hempty, List.length_nil]
  refine ⟨r, hr, hmatrix.symm ▸ hfills, ?_, fun hheaders => ?_⟩
  · show Outcome.done _ _ _ = .done (s.withMatrix (s.withMatrix m').matrix) _ _
    rw [hmatrix]
  · show applyFill (s.withMatrix m') names d = .ok (.done (s.withMatrix m') _ _)
    refine applyFill_eq_ok_iff.mpr ⟨r, ?_, ?_⟩
    · rw [RunState.width, hmatrix, hfills.width_eq hfits.lt]
      show resolveNames (.ofMatrix m') _ names = _
      rw [hfills.headers_eq, ← hheaders]
      exact hr
    · rw [hmatrix, fillColumns_of_settled hfits.nodup hfills.settled, RunState.withMatrix_withMatrix]

/-- Two gaps are filled from below, one of them past the end of its row; the last row gets nothing. -/
theorem applyFill_fills_gaps_upwards :
    let m : Matrix := [[.text "h", .text "k"], [.text " "], [.text "a", .int 1], []]
    let m' : Matrix := [[.text "h", .text "k"], [.text "a", .int 1], [.text "a", .int 1], []]
    let s : RunState := ⟨"A", [("A", m)], .ofMatrix m, []⟩
    ∃ o, applyFill s ["A", "B"] .up = .ok o ∧ o.state.matrix = m' ∧ FillsGaps .up [0, 1] m m' ∧
      o.description = "Filled 2 empty cell(s) up in 2 column(s)" ∧
      applyFill o.state ["A", "B"] .up =
        .ok (.done o.state "Filled 0 empty cell(s) up in 2 column(s)" []) := by
  intro m m' s
  have happly : applyFill s ["A", "B"] .up = .ok _ := rfl
  obtain ⟨r, hr, hfills, -, hagain⟩ := applyFill_fills_gaps happly
  obtain rfl : r = ⟨[0, 1], []⟩ := Except.ok.inj (hr.symm.trans rfl)
  exact ⟨_, happly, rfl, hfills, by decide, hagain rfl⟩

end Rule

end Sheetflow
