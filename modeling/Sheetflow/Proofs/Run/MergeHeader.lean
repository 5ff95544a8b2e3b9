import Mathlib.Data.List.Nodup
import Sheetflow.Proofs.Column.Header
import Sheetflow.Run.Combine

/-!
# Placing the columns of a source

A header row in a merge has its columns noted by text, the way headers are
collected for column references (`MergeHeader.notePositions_eq`): what is noted for
a text is its first column.  The columns of a source are placed one after the
other, and `MergeHeader.Placed` says what is true behind each of them.  The
columns taken so far are distinct and have the header texts of the columns placed
on them; a column is `Merge.Aligned` if its text is the first of its kind in the
source and was there before the source, and exactly the aligned columns go to
columns that were there before.

That a column which is not aligned never goes to an older column needs to know
which columns are taken: the noted column of every text seen so far, and every
column that the source has brought.
-/

namespace Sheetflow

attribute [local irreducible] normalText

/-- What stands at an index of a list with one more member. -/
theorem getElem?_concat_cases {α : Type} {xs : List α} {x y : α} {k : Nat}
    (h : (xs ++ [x])[k]? = some y) :
    (k < xs.length ∧ xs[k]? = some y) ∨ (k = xs.length ∧ y = x) := by
  rcases Nat.lt_or_ge k xs.length with hk | hk
  · rw [List.getElem?_append_left hk] at h
    exact .inl ⟨hk, h⟩
  · rw [List.getElem?_append_right hk, List.getElem?_singleton, Option.ite_none_right_eq_some] at h
    exact .inr ⟨by omega, (Option.some.inj h.2).symm⟩

/-! ### The noted columns -/

namespace MergeHeader

/-- A merge notes the headers that are collected for column references. -/
theorem note_eq (positions : Headers) (c : Cell) (i : Nat) :
    note positions c.key i = if c.isBlank then positions else positions.insertNew c.key i := by
  have hk := c.key_eq_empty_iff
  rw [note, Headers.insertNew, Headers.find?]
  by_cases hb : c.isBlank
  · rw [if_pos hb, if_pos (by rw [hk.mpr hb]; rfl)]
  · rw [if_neg hb, decide_eq_false fun he => hb (hk.mp he), Bool.false_or]

theorem notePositions_eq (positions : Headers) (i : Nat) (row : Row) :
    notePositions positions i row = positions.addRow i row := by
  induction row generalizing positions i with
  | nil => rfl
  | cons c row ih => rw [notePositions, Headers.addRow, note_eq, ih]

theorem areOf_ofRow (cells : Row) : Headers.AreOf (ofRow cells).positions cells := by
  rw [ofRow, notePositions_eq]
  exact Headers.areOf_addRow cells

end MergeHeader

/-! ### Where the columns of a source go -/

namespace Merge

/-- Column `j` of a source belongs to a column that is there before the source: its header text is
not empty, heads no earlier column of the source and heads a column of `prior`. -/
def Aligned (prior source : Row) (j : Nat) : Prop :=
  (source.cell j).key ≠ "" ∧ (∀ k < j, (source.cell k).key ≠ (source.cell j).key) ∧
    ∃ i < prior.length, (prior.cell i).key = (source.cell j).key

/-- Column `j` of a source goes to column `i` of the header `next` that `prior` has grown to: it has
the same header text there.  An aligned column goes to the first column of `prior` with this
text, any other to a column that was not there and has got its header cell. -/
structure Stands (prior source next : Row) (j i : Nat) : Prop where
  lt : i < next.length
  key : (next.cell i).key = (source.cell j).key
  first : Aligned prior source j → prior.IsFirst (source.cell j).key i
  fresh : ¬ Aligned prior source j → prior.length ≤ i ∧ next.cell i = source.cell j

theorem aligned_append {prior source : Row} (more : Row) {j : Nat} (hj : j < source.length) :
    Aligned prior (source ++ more) j ↔ Aligned prior source j := by
  have hc : ∀ k ≤ j, Row.cell (source ++ more) k = source.cell k :=
    fun k hk => Row.cell_append_left (Nat.lt_of_le_of_lt hk hj)
  have hb : (∀ k < j, (Row.cell (source ++ more) k).key ≠ (source.cell j).key) ↔
      ∀ k < j, (source.cell k).key ≠ (source.cell j).key :=
    forall_congr' fun k => forall_congr' fun hk => by rw [hc k (Nat.le_of_lt hk)]
  rw [Aligned, hc j (Nat.le_refl j), hb, ← Aligned]

/-- Later columns of the source and of the header change nothing. -/
theorem Stands.append {prior source next : Row} {j i : Nat} (h : Stands prior source next j i)
    (hj : j < source.length) (more added : Row) :
    Stands prior (source ++ more) (next ++ added) j i := by
  have hs : Row.cell (source ++ more) j = source.cell j := Row.cell_append_left hj
  have hn : Row.cell (next ++ added) i = next.cell i := Row.cell_append_left h.lt
  refine ⟨?_, by rw [hs, hn, h.key], ?_, ?_⟩
  · rw [List.length_append]
    exact Nat.lt_add_right _ h.lt
  · rw [aligned_append more hj, hs]
    exact h.first
  · rw [aligned_append more hj, hs, hn]
    exact h.fresh

end Merge

namespace MergeHeader

/-- What is true behind the columns `done` of a source, which have gone to the columns `taken`. -/
structure Placed (prior done : Row) (h : MergeHeader) (taken : List Nat) : Prop where
  notes : Headers.AreOf h.positions h.cells
  grown : ∃ added, h.cells = prior ++ added ∧ added.Sublist done
  length : taken.length = done.length
  nodup : taken.Nodup
  stands : ∀ j i, taken[j]? = some i → Merge.Stands prior done h.cells j i
  -- by these two the columns that are still free are old, and their texts are new to the source
  seen : ∀ c ∈ done, c.key ≠ "" → ∀ i, h.cells.IsFirst c.key i → i ∈ taken
  brought : ∀ i, prior.length ≤ i → i < h.cells.length → i ∈ taken

theorem placed_nil {h : MergeHeader} (hn : Headers.AreOf h.positions h.cells) :
    Placed h.cells [] h [] where
  notes := hn
  grown := ⟨[], (List.append_nil _).symm, List.Sublist.refl _⟩
  length := rfl
  nodup := List.nodup_nil
  stands _ _ hj := by cases hj
  seen _ hc := absurd hc List.not_mem_nil
  brought _ hi hlt := absurd hlt (Nat.not_lt.mpr hi)

/-- A column goes to the first column with its text, if there is one that is not taken, and to a new
column otherwise. -/
theorem place_cases {h : MergeHeader} (hn : Headers.AreOf h.positions h.cells) (taken : List Nat)
    (c : Cell) :
    (∃ i, c.key ≠ "" ∧ h.cells.IsFirst c.key i ∧ i ∉ taken ∧ h.place taken c = (h, i)) ∨
      ((c.key ≠ "" → ∀ i, h.cells.IsFirst c.key i → i ∈ taken) ∧
        h.place taken c = h.addColumn c) := by
  rw [place]
  by_cases hk : c.key = ""
  · rw [if_pos hk]
    exact .inr ⟨fun hne => absurd hk hne, rfl⟩
  · rw [if_neg hk]
    cases hl : h.positions.lookup c.key with
    | none =>
      refine .inr ⟨fun _ i hi => ?_, rfl⟩
      have hf := (hn c.key i).mpr ⟨hk, hi⟩
      rw [Headers.find?, hl] at hf
      cases hf
    | some i =>
      have hi : h.cells.IsFirst c.key i := ((hn c.key i).mp hl).2
      by_cases ht : i ∈ taken
      · refine .inr ⟨fun _ k hk => hk.unique hi ▸ ht, ?_⟩
        simp only [if_pos ht]
      · refine .inl ⟨i, hk, hi, ht, ?_⟩
        simp only [if_neg ht]

theorem placeAll_cons (h : MergeHeader) (taken : List Nat) (c : Cell) (rest : Row) :
    h.placeAll taken (c :: rest) =
      (h.place taken c).1.placeAll (taken ++ [(h.place taken c).2]) rest := rfl

namespace Placed

variable {prior done : Row} {h : MergeHeader} {taken : List Nat} {c : Cell} {i : Nat}

theorem lt_of_mem (hp : Placed prior done h taken) (hi : i ∈ taken) : i < h.cells.length := by
  obtain ⟨j, hj⟩ := List.mem_iff_getElem?.mp hi
  exact (hp.stands j i hj).lt

theorem concat_stands (hp : Placed prior done h taken) (added : Row)
    (hi : Merge.Stands prior (done ++ [c]) (h.cells ++ added) done.length i) :
    ∀ j k, (taken ++ [i])[j]? = some k →
      Merge.Stands prior (done ++ [c]) (h.cells ++ added) j k := by
  intro j k hk
  rcases getElem?_concat_cases hk with ⟨hj, hk⟩ | ⟨rfl, rfl⟩
  · exact (hp.stands j k hk).append (hp.length ▸ hj) [c] added
  · rwa [hp.length]

/-- A column whose text has a free first column is aligned: that column is one of `prior`, since the
others are taken. -/
theorem aligned_of_free (hp : Placed prior done h taken) (hk : c.key ≠ "")
    (hi : h.cells.IsFirst c.key i) (ht : i ∉ taken) :
    Merge.Aligned prior (done ++ [c]) done.length ∧ prior.IsFirst c.key i := by
  obtain ⟨added, hg, -⟩ := hp.grown
  have hold : i < prior.length :=
    Nat.lt_of_not_le fun hle => ht (hp.brought i hle hi.1)
  have hfirst : prior.IsFirst c.key i := by
    rw [hg] at hi
    exact (Row.isFirst_append added hold).mp hi
  refine ⟨?_, hfirst⟩
  rw [Merge.Aligned, Row.cell_append_self]
  refine ⟨hk, fun k hlt he => ht ?_, i, hold, hfirst.2.1⟩
  rw [Row.cell_append_left hlt] at he
  rw [← he] at hk hi
  exact hp.seen _ (Row.cell_mem hlt) hk i hi

/-- A column whose text has no free first column is not aligned: if the text was there before the
source, an earlier column of the source has it too. -/
theorem not_aligned (hp : Placed prior done h taken)
    (hc : c.key ≠ "" → ∀ i, h.cells.IsFirst c.key i → i ∈ taken) :
    ¬ Merge.Aligned prior (done ++ [c]) done.length := by
  obtain ⟨added, hg, -⟩ := hp.grown
  rw [Merge.Aligned, Row.cell_append_self]
  rintro ⟨hk, hnew, k, hlt, he⟩
  obtain ⟨i, hi⟩ := Row.exists_isFirst hlt he
  have hfirst : h.cells.IsFirst c.key i := by
    rw [hg]
    exact hi.append added
  obtain ⟨j, hj⟩ := List.mem_iff_getElem?.mp (hc hk i hfirst)
  have hjlt : j < done.length := hp.length ▸ (List.getElem?_eq_some_iff.mp hj).1
  refine hnew j hjlt ?_
  rw [Row.cell_append_left hjlt, ← (hp.stands j i hj).key, hfirst.2.1]

/-- The step to a column that is there. -/
theorem reuse (hp : Placed prior done h taken) (hk : c.key ≠ "") (hi : h.cells.IsFirst c.key i)
    (ht : i ∉ taken) : Placed prior (done ++ [c]) h (taken ++ [i]) := by
  obtain ⟨added, hg, hs⟩ := hp.grown
  obtain ⟨haligned, hfirst⟩ := hp.aligned_of_free hk hi ht
  have hstands : Merge.Stands prior (done ++ [c]) (h.cells ++ []) done.length i := by
    rw [List.append_nil]
    refine ⟨hi.1, ?_, fun _ => ?_, fun hn => absurd haligned hn⟩
    · rw [Row.cell_append_self, hi.2.1]
    · rwa [Row.cell_append_self]
  refine ⟨hp.notes, ⟨added, hg, hs.trans (List.sublist_append_left _ _)⟩, ?_, ?_, ?_, ?_, ?_⟩
  · simp [hp.length]
  · exact List.nodup_append.mpr ⟨hp.nodup, List.nodup_singleton i,
      fun a ha b hb he => ht (List.mem_singleton.mp hb ▸ he ▸ ha)⟩
  · have := hp.concat_stands [] hstands
    rwa [List.append_nil] at this
  · intro d hd hne k hf
    rcases List.mem_append.mp hd with hd | hd
    · exact List.mem_append_left _ (hp.seen d hd hne k hf)
    · obtain rfl := List.mem_singleton.mp hd
      exact List.mem_append_right _ (List.mem_singleton.mpr (hf.unique hi))
  · exact fun k hle hlt => List.mem_append_left _ (hp.brought k hle hlt)

/-- The step to a new column. -/
theorem addColumn (hp : Placed prior done h taken)
    (hc : c.key ≠ "" → ∀ i, h.cells.IsFirst c.key i → i ∈ taken) :
    Placed prior (done ++ [c]) ⟨h.cells ++ [c], note h.positions c.key h.cells.length⟩
      (taken ++ [h.cells.length]) := by
  obtain ⟨added, hg, hs⟩ := hp.grown
  have hlen : (h.cells ++ [c]).length = h.cells.length + 1 := by
    rw [List.length_append, List.length_singleton]
  have hstands : Merge.Stands prior (done ++ [c]) (h.cells ++ [c]) done.length h.cells.length := by
    refine ⟨hlen ▸ Nat.lt_succ_self _, ?_, fun ha => absurd ha (hp.not_aligned hc),
      fun _ => ⟨?_, ?_⟩⟩
    · rw [Row.cell_append_self, Row.cell_append_self]
    · rw [hg, List.length_append]
      exact Nat.le_add_right _ _
    · rw [Row.cell_append_self, Row.cell_append_self]
  have hnotes : Headers.AreOf (note h.positions c.key h.cells.length) (h.cells ++ [c]) := by
    rw [note_eq]
    exact hp.notes.concat c
  refine ⟨hnotes, ⟨added ++ [c], ?_, hs.append (List.Sublist.refl _)⟩,
    ?_, ?_, hp.concat_stands [c] hstands, ?_, ?_⟩
  · rw [← List.append_assoc, ← hg]
  · simp [hp.length]
  · refine List.nodup_append.mpr ⟨hp.nodup, List.nodup_singleton _, fun a ha b hb he => ?_⟩
    have hlt := hp.lt_of_mem ha
    rw [he, List.mem_singleton.mp hb] at hlt
    exact Nat.lt_irrefl _ hlt
  · intro d hd hne k hf
    rcases Row.isFirst_append_singleton.mp hf with hold | ⟨rfl, -, -⟩
    · refine List.mem_append_left _ ?_
      rcases List.mem_append.mp hd with hd | hd
      · exact hp.seen d hd hne k hold
      · obtain rfl := List.mem_singleton.mp hd
        exact hc hne k hold
    · exact List.mem_append_right _ (List.mem_singleton.mpr rfl)
  · intro k hle hlt
    by_cases hk : k < h.cells.length
    · exact List.mem_append_left _ (hp.brought k hle hk)
    · refine List.mem_append_right _ (List.mem_singleton.mpr ?_)
      have : k < h.cells.length + 1 := hlen ▸ hlt
      exact Nat.le_antisymm (Nat.le_of_lt_succ this) (Nat.le_of_not_lt hk)

theorem place (hp : Placed prior done h taken) (c : Cell) :
    Placed prior (done ++ [c]) (h.place taken c).1 (taken ++ [(h.place taken c).2]) := by
  rcases place_cases hp.notes taken c with ⟨i, hk, hi, ht, he⟩ | ⟨hc, he⟩
  · rw [he]
    exact hp.reuse hk hi ht
  · rw [he, MergeHeader.addColumn]
    exact hp.addColumn hc

theorem placeAll (hp : Placed prior done h taken) (rest : Row) :
    Placed prior (done ++ rest) (h.placeAll taken rest).1 (h.placeAll taken rest).2 := by
  induction rest generalizing done h taken with
  | nil =>
    rw [List.append_nil]
    exact hp
  | cons c rest ih =>
    rw [placeAll_cons, ← List.singleton_append, ← List.append_assoc]
    exact ih (hp.place c)

end Placed

/-- **Every column of a source gets a column of its own**, and `Merge.Stands` says which. -/
theorem placed_placeAll {h : MergeHeader} (hn : Headers.AreOf h.positions h.cells) (source : Row) :
    Placed h.cells source (h.placeAll [] source).1 (h.placeAll [] source).2 :=
  (placed_nil hn).placeAll source

end MergeHeader

end Sheetflow
