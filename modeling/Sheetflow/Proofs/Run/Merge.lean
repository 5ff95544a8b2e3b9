import Mathlib.Data.List.Forall2
import Mathlib.Data.List.Induction
import Sheetflow.Proofs.Run.MergeHeader

/-!
# Merging loses, doubles and misplaces nothing

The sources are merged one after the other.  Behind them the header is that of the
base followed by header cells of sources, and the rows are those of the base
followed by one block of rows for each source (`Merge.exists_blocks`).  A row of a
block holds the cells of its source row where the columns of the source have gone
(`Merge.Spread`) and nothing else; these columns are said by `Merge.Stands` and are
distinct.  Later sources only make the rows longer.
-/

namespace Sheetflow

attribute [local irreducible] normalText

/-! ### Rows of a source -/

namespace Merge

/-- Write the cells of a row into another, each into the column that is given for it. -/
def write (acc : Row) (columns : List Nat) (row : Row) : Row :=
  (columns.zip row).foldl (fun acc p => acc.set p.1 p.2) acc

theorem write_cons (acc : Row) (i : Nat) (columns : List Nat) (c : Cell) (row : Row) :
    write acc (i :: columns) (c :: row) = write (acc.set i c) columns row := rfl

theorem length_write (acc : Row) (columns : List Nat) (row : Row) :
    (write acc columns row).length = acc.length := by
  induction columns generalizing acc row with
  | nil => rfl
  | cons i columns ih =>
    cases row with
    | nil => rfl
    | cons c row => rw [write_cons, ih, List.length_set]

theorem length_scatter (width : Nat) (columns : List Nat) (row : Row) :
    (scatter width columns row).length = width :=
  (length_write _ columns row).trans List.length_replicate

theorem cell_write_of_notMem {columns : List Nat} {i : Nat} (h : i ∉ columns) (acc row : Row) :
    (write acc columns row).cell i = acc.cell i := by
  induction columns generalizing acc row with
  | nil => rfl
  | cons k columns ih =>
    rw [List.mem_cons, not_or] at h
    cases row with
    | nil => rfl
    | cons c row => rw [write_cons, ih h.2, Row.cell_set_of_ne _ (Ne.symm h.1)]

/-- In columns that were empty stands afterwards what the row has there. -/
theorem cell_write {columns : List Nat} (hd : columns.Nodup) {acc : Row}
    (hc : ∀ i ∈ columns, i < acc.length ∧ acc.cell i = .empty) {row : Row}
    (hr : row.length ≤ columns.length) {j i : Nat} (hj : columns[j]? = some i) :
    (write acc columns row).cell i = row.cell j := by
  induction columns generalizing acc row j with
  | nil => cases hj
  | cons k columns ih =>
    obtain ⟨hk, hd⟩ := List.nodup_cons.mp hd
    cases row with
    | nil => exact (hc i (List.mem_of_getElem? hj)).2
    | cons c row =>
      rw [write_cons]
      cases j with
      | zero =>
        obtain rfl : k = i := Option.some.inj hj
        rw [cell_write_of_notMem hk, Row.cell_set_self (hc k List.mem_cons_self).1]
        rfl
      | succ j =>
        refine ih hd (fun x hx => ?_) (Nat.le_of_succ_le_succ hr) hj
        have hne : k ≠ x := fun he => hk (he ▸ hx)
        rw [List.length_set, Row.cell_set_of_ne _ hne]
        exact hc x (List.mem_cons_of_mem k hx)

/-- The cells of the row `row` of a source with `columns` columns stand in `placed` where `f` says,
and `placed` is empty elsewhere. -/
structure Spread (f : Nat → Nat) (columns width : Nat) (row placed : Row) : Prop where
  length : placed.length = width
  cell : ∀ j < columns, placed.cell (f j) = row.cell j
  empty : ∀ i, (∀ j < columns, f j ≠ i) → placed.cell i = .empty

/-- The column for each column of a source, as a function. -/
def columnAt (columns : List Nat) (j : Nat) : Nat := columns[j]?.getD 0

theorem getElem?_of_lt {columns : List Nat} {j : Nat} (h : j < columns.length) :
    columns[j]? = some (columnAt columns j) := by
  rw [columnAt, List.getElem?_eq_getElem h]
  rfl

theorem columnAt_inj {columns : List Nat} (hd : columns.Nodup) {j k : Nat}
    (hj : j < columns.length) (hk : k < columns.length)
    (h : columnAt columns j = columnAt columns k) : j = k := by
  refine (List.getElem?_inj hj hd).mp ?_
  rw [getElem?_of_lt hj, getElem?_of_lt hk, h]

theorem spread_scatter {columns : List Nat} (hd : columns.Nodup) {width : Nat}
    (hw : ∀ i ∈ columns, i < width) {row : Row} (hr : row.length ≤ columns.length) :
    Spread (columnAt columns) columns.length width row (scatter width columns row) where
  length := length_scatter width columns row
  cell j hj := by
    refine cell_write hd (fun i hi => ⟨?_, Row.cell_replicate_empty width i⟩) hr (getElem?_of_lt hj)
    rw [List.length_replicate]
    exact hw i hi
  empty i hi := by
    have hn : i ∉ columns := by
      intro hm
      obtain ⟨j, hj⟩ := List.mem_iff_getElem?.mp hm
      have hlt : j < columns.length := (List.getElem?_eq_some_iff.mp hj).1
      rw [getElem?_of_lt hlt] at hj
      exact hi j hlt (Option.some.inj hj)
    exact (cell_write_of_notMem hn _ row).trans (Row.cell_replicate_empty width i)

theorem Spread.pad {f : Nat → Nat} {columns width wide : Nat} {row placed : Row}
    (h : Spread f columns width row placed) (hw : width ≤ wide) :
    Spread f columns wide row (placed.pad wide) where
  length := by rw [Row.length_pad, h.length, Nat.max_eq_right hw]
  cell j hj := by rw [Row.cell_pad, h.cell j hj]
  empty i hi := by rw [Row.cell_pad, h.empty i hi]

/-! ### Source after source -/

/-- The merge behind some sources. -/
def after (base : Matrix) (sources : List Matrix) : MergeHeader × List Row :=
  sources.foldl mergeSource (MergeHeader.ofRow base.header, base.drop 1)

theorem mergeSheets_eq (base : Matrix) (sources : List Matrix) :
    mergeSheets base sources = (after base sources).1.cells ::
      (after base sources).2.map (Row.pad (after base sources).1.cells.length) := rfl

/-- The header behind the next source, and the columns of the source in it. -/
def placement (base : Matrix) (before : List Matrix) (source : Matrix) : MergeHeader × List Nat :=
  (after base before).1.placeAll [] source.header

/-- The rows that the next source adds. -/
def sourceRows (base : Matrix) (before : List Matrix) (source : Matrix) : List Row :=
  let (h, columns) := placement base before source
  (source.drop 1).map (scatter h.cells.length columns)

theorem after_concat (base : Matrix) (before : List Matrix) (source : Matrix) :
    after base (before ++ [source]) = ((placement base before source).1,
      (after base before).2 ++ sourceRows base before source) := by
  rw [after, List.foldl_append, List.foldl_cons, List.foldl_nil, ← after]
  cases source with
  | nil => exact Prod.ext rfl (List.append_nil _).symm
  | cons first body => rfl

theorem areOf_after (base : Matrix) (sources : List Matrix) :
    Headers.AreOf (after base sources).1.positions (after base sources).1.cells := by
  induction sources using List.reverseRecOn with
  | nil => exact MergeHeader.areOf_ofRow base.header
  | append_singleton before source ih =>
    rw [after_concat]
    exact (MergeHeader.placed_placeAll ih source.header).notes

theorem placed_placement (base : Matrix) (before : List Matrix) (source : Matrix) :
    MergeHeader.Placed (after base before).1.cells source.header (placement base before source).1
      (placement base before source).2 :=
  MergeHeader.placed_placeAll (areOf_after base before) source.header

/-- The header grows by header cells of sources. -/
theorem exists_cells_append (base : Matrix) (before more : List Matrix) :
    ∃ added : Row, (after base (before ++ more)).1.cells = (after base before).1.cells ++ added ∧
      added.Sublist (more.flatMap Matrix.header) := by
  induction more using List.reverseRecOn with
  | nil =>
    rw [List.append_nil]
    exact ⟨[], (List.append_nil _).symm, List.nil_sublist _⟩
  | append_singleton more source ih =>
    obtain ⟨added, he, hs⟩ := ih
    obtain ⟨last, hl, ht⟩ := (placed_placement base (before ++ more) source).grown
    refine ⟨added ++ last, ?_, ?_⟩
    · rw [← List.append_assoc, after_concat, hl, he, List.append_assoc]
    · rw [List.flatMap_append, List.flatMap_singleton]
      exact hs.append ht

theorem length_of_mem_after {base : Matrix} {sources : List Matrix} {row : Row}
    (h : row ∈ (after base sources).2) : row.length ≤ (after base sources).1.cells.length := by
  induction sources using List.reverseRecOn with
  | nil =>
    refine Nat.le_trans (Matrix.length_le_width (List.mem_of_mem_drop h)) ?_
    exact Nat.le_of_eq base.length_header.symm
  | append_singleton before source ih =>
    obtain ⟨added, he, -⟩ := exists_cells_append base before [source]
    rw [after_concat] at h
    rcases List.mem_append.mp h with h | h
    · rw [he, List.length_append]
      exact Nat.le_add_right_of_le (ih h)
    · obtain ⟨body, -, rfl⟩ := List.mem_map.mp h
      rw [after_concat]
      exact Nat.le_of_eq (length_scatter _ _ body)

/-- **The rows of a merge**: those of the base, and then a block for every source. -/
theorem exists_blocks (base : Matrix) (sources : List Matrix) :
    ∃ blocks : List (List Row), (after base sources).2 = base.drop 1 ++ blocks.flatten ∧
      blocks.length = sources.length ∧
      ∀ k source block, sources[k]? = some source → blocks[k]? = some block →
        block = sourceRows base (sources.take k) source := by
  induction sources using List.reverseRecOn with
  | nil => exact ⟨[], (List.append_nil _).symm, rfl, fun _ _ _ hk => by cases hk⟩
  | append_singleton before last ih =>
    obtain ⟨blocks, hb, hlen, hk⟩ := ih
    refine ⟨blocks ++ [sourceRows base before last], ?_, ?_, fun k source block hs ht => ?_⟩
    · rw [after_concat, hb, List.flatten_append, List.flatten_singleton, List.append_assoc]
    · rw [List.length_append, List.length_append, hlen]
      rfl
    · rcases getElem?_concat_cases hs with ⟨hlt, hs⟩ | ⟨rfl, rfl⟩
      · rw [List.getElem?_append_left (hlen ▸ hlt)] at ht
        rw [List.take_append_of_le_length (Nat.le_of_lt hlt)]
        exact hk k source block hs ht
      · rw [← hlen, List.getElem?_concat_length] at ht
        rw [List.take_left]
        exact (Option.some.inj ht).symm

/-! ### The merged worksheet -/

theorem length_of_mem_mergeSheets {base : Matrix} {sources : List Matrix} {row : Row}
    (h : row ∈ mergeSheets base sources) :
    row.length = (after base sources).1.cells.length := by
  rw [mergeSheets_eq] at h
  rcases List.mem_cons.mp h with rfl | h
  · rfl
  · obtain ⟨short, hs, rfl⟩ := List.mem_map.mp h
    rw [Row.length_pad, Nat.max_eq_right (length_of_mem_after hs)]

theorem header_mergeSheets (base : Matrix) (sources : List Matrix) :
    (mergeSheets base sources).header = (after base sources).1.cells := by
  obtain ⟨row, hm, hw⟩ := Matrix.exists_length_eq_width (List.cons_ne_nil
    (after base sources).1.cells ((after base sources).2.map (Row.pad _)))
  rw [← mergeSheets_eq, length_of_mem_mergeSheets hm] at hw
  rw [Matrix.header, ← hw, mergeSheets_eq, List.head?_cons, Option.getD_some, Row.pad, Nat.sub_self]
  exact List.append_nil _

/-- How the rows of a source stand in a merge as a block: `f` says to which column each column of
the source has gone, `prior` and `next` are the headers of the merge before and behind the source
and `merged` is the last one. -/
structure Block (prior next merged : Row) (source : Matrix) (f : Nat → Nat) (block : List Row) :
    Prop where
  stands : ∀ j < source.width, Stands prior source.header next j (f j)
  injective : ∀ j < source.width, ∀ k < source.width, f j = f k → j = k
  same_key : ∀ j < source.width,
    f j < merged.length ∧ (merged.cell (f j)).key = (source.header.cell j).key
  rows : List.Forall₂ (Spread f source.width merged.length) (source.drop 1) block

theorem block_sourceRows (base : Matrix) (before : List Matrix) (source : Matrix)
    (rest : List Matrix) :
    ∃ f, Block (after base before).1.cells (after base (before ++ [source])).1.cells
      (after base (before ++ [source] ++ rest)).1.cells source f
      ((sourceRows base before source).map
        (Row.pad (after base (before ++ [source] ++ rest)).1.cells.length)) := by
  have hp := placed_placement base before source
  have hwidth : (placement base before source).2.length = source.width :=
    hp.length.trans source.length_header
  obtain ⟨added, he, -⟩ := exists_cells_append base (before ++ [source]) rest
  have hnext : (after base (before ++ [source])).1.cells =
      (placement base before source).1.cells := by
    rw [after_concat]
  have hstands : ∀ j < source.width, Stands (after base before).1.cells source.header
      (after base (before ++ [source])).1.cells j
      (columnAt (placement base before source).2 j) := by
    intro j hj
    rw [hnext]
    exact hp.stands j _ (getElem?_of_lt (hwidth ▸ hj))
  refine ⟨columnAt (placement base before source).2, hstands, ?_, fun j hj => ?_, ?_⟩
  · rw [← hwidth]
    exact fun j hj k hk => columnAt_inj hp.nodup hj hk
  · rw [he, Row.cell_append_left (hstands j hj).lt, List.length_append]
    exact ⟨Nat.lt_add_right _ (hstands j hj).lt, (hstands j hj).key⟩
  · rw [sourceRows, List.map_map, List.forall₂_map_right_iff, List.forall₂_same]
    intro row hrow
    have hr : row.length ≤ (placement base before source).2.length := by
      rw [hwidth]
      exact Matrix.length_le_width (List.mem_of_mem_drop hrow)
    rw [he, hnext, List.length_append, ← hwidth]
    exact (spread_scatter hp.nodup (fun _ => hp.lt_of_mem) hr).pad (Nat.le_add_right _ _)

/-- A header of the base is found where it was. -/
theorem find?_of_base (base : Matrix) (sources : List Matrix) {key : String} {i : Nat}
    (h : (Headers.ofMatrix base).find? key = some i) :
    (Headers.ofMatrix (mergeSheets base sources)).find? key = some i := by
  obtain ⟨hk, hi⟩ := (Headers.areOf_ofMatrix base key i).mp h
  obtain ⟨added, he, -⟩ := exists_cells_append base [] sources
  refine (Headers.areOf_ofMatrix _ key i).mpr ⟨hk, ?_⟩
  rw [mergeSheets_eq, List.head?_cons, Option.getD_some, ← List.nil_append sources, he]
  exact (hi.append _).append added

/-- A header of a source is found among the columns with its text. -/
theorem exists_find?_of_source {base : Matrix} {sources : List Matrix} {source : Matrix}
    (hs : source ∈ sources) {c : Cell} (hc : c ∈ source.header) (hb : c.isBlank = false) :
    ∃ i, (Headers.ofMatrix (mergeSheets base sources)).find? c.key = some i := by
  obtain ⟨before, rest, rfl⟩ := List.append_of_mem hs
  obtain ⟨f, hf⟩ := block_sourceRows base before source rest
  obtain ⟨j, hj⟩ := List.mem_iff_getElem?.mp hc
  have hlt : j < source.width := by
    rw [← source.length_header]
    exact (List.getElem?_eq_some_iff.mp hj).1
  obtain ⟨hw, hk⟩ := hf.same_key j hlt
  have hcell : source.header.cell j = c := by
    rw [Row.cell, hj]
    rfl
  obtain ⟨i, hi⟩ := Row.exists_isFirst hw (hk.trans (congrArg Cell.key hcell))
  refine ⟨i, (Headers.areOf_ofMatrix _ c.key i).mpr ⟨fun he => ?_, ?_⟩⟩
  · rw [c.key_eq_empty_iff.mp he] at hb
    cases hb
  · rw [mergeSheets_eq, List.head?_cons, Option.getD_some, List.append_cons]
    exact hi

end Merge

/-- **Merging puts every cell into one place.**  All rows are as long as the first, which is the
header of the base followed by header cells of sources.  Below it are the rows of the base and then,
source by source, their rows, spread over the columns that `Merge.Block` says.  Every header text of
the base leads to the same column as before, and every header text of a source to a column. -/
theorem mergeSheets_places_every_cell (base : Matrix) (sources : List Matrix) :
    (∀ row ∈ mergeSheets base sources, row.length = (mergeSheets base sources).headerWidth) ∧
      (∃ (added : Row) (blocks : List (List Row)),
        mergeSheets base sources = (base.header ++ added) ::
          ((base.drop 1).map (Row.pad (mergeSheets base sources).headerWidth) ++ blocks.flatten) ∧
        added.Sublist (sources.flatMap Matrix.header) ∧
        blocks.length = sources.length ∧
        ∀ k source block, sources[k]? = some source → blocks[k]? = some block →
          ∃ f, Merge.Block (mergeSheets base (sources.take k)).header
            (mergeSheets base (sources.take (k + 1))).header (mergeSheets base sources).header
            source f block) ∧
      (∀ key i, (Headers.ofMatrix base).find? key = some i →
        (Headers.ofMatrix (mergeSheets base sources)).find? key = some i) ∧
      ∀ source ∈ sources, ∀ c ∈ source.header, c.isBlank = false →
        ∃ i, (Headers.ofMatrix (mergeSheets base sources)).find? c.key = some i := by
  refine ⟨fun row h => Merge.length_of_mem_mergeSheets h, ?_,
    fun key i h => Merge.find?_of_base base sources h,
    fun source hs c hc hb => Merge.exists_find?_of_source hs hc hb⟩
  obtain ⟨added, he, hadded⟩ : ∃ added : Row, (Merge.after base sources).1.cells =
    base.header ++ added ∧ _ := Merge.exists_cells_append base [] sources
  obtain ⟨blocks, hrows, hlen, hblocks⟩ := Merge.exists_blocks base sources
  refine ⟨added, blocks.map (List.map (Row.pad (mergeSheets base sources).headerWidth)), ?_, hadded,
    ?_, fun k source block hs hb => ?_⟩
  · rw [Matrix.headerWidth, Merge.mergeSheets_eq, List.head?_cons, Option.getD_some, hrows,
      List.map_append, List.map_flatten, he]
  · rw [List.length_map, hlen]
  · rw [List.getElem?_map] at hb
    obtain ⟨rows, hr, rfl⟩ := Option.map_eq_some_iff.mp hb
    obtain rfl := hblocks k source rows hs hr
    obtain ⟨f, hf⟩ := Merge.block_sourceRows base (sources.take k) source (sources.drop (k + 1))
    have htake : sources.take k ++ [source] = sources.take (k + 1) := by
      rw [List.take_add_one, hs, Option.toList_some]
    rw [htake, List.take_append_drop] at hf
    refine ⟨f, ?_⟩
    rw [Merge.header_mergeSheets, Merge.header_mergeSheets, Merge.header_mergeSheets]
    exact hf

example : mergeSheets [[.text "Name", .text "Qty"], [.text "a", .int 1]]
    [[[.text " qty", .text "Extra"], [.int 2, .text "z"]]] =
    [[.text "Name", .text "Qty", .text "Extra"], [.text "a", .int 1, .empty],
      [.empty, .int 2, .text "z"]] := by
  decide +kernel

end Sheetflow
