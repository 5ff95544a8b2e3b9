import Sheetflow.Proofs.File.Name

/-!
# Where references lead

A reference is a path that starts at the root of all outputs, or at the top if it starts with a slash.
It may lead out of the root and back into it by the root's own name.  What counts is where it ends: it is
accepted if it ends strictly below the root, as what is below the root then
(`Location.ofRef_below_iff`), and refused if it does not (`Location.ofRef_outside_iff`).  What is below
the root consists of plain names of the reference (`Location.isPart_of_place`).
-/

namespace Sheetflow.Location

variable {root : Path} {ref : String} {p : Path}

/-- Strictly below a root. -/
def IsBelow (root p : Path) : Prop := ∃ q ≠ [], p = root ++ q

theorem isBelow_iff : IsBelow root p ↔ root <+: p ∧ root.length < p.length := by
  constructor
  · rintro ⟨q, hq, rfl⟩
    have hpos := List.length_pos_iff.mpr hq
    refine ⟨List.prefix_append root q, ?_⟩
    rw [List.length_append]
    omega
  · rintro ⟨⟨q, rfl⟩, hlen⟩
    refine ⟨q, ?_, rfl⟩
    rintro rfl
    rw [List.append_nil] at hlen
    exact Nat.lt_irrefl _ hlen

/-! ### What is accepted -/

/-- **When a reference is accepted.** -/
theorem ofRef_below_iff :
    ofRef root ref = .below p ↔ '\x00' ∉ ref.toList ∧ p ≠ [] ∧ place root ref = root ++ p := by
  unfold ofRef
  dsimp only
  split
  · rename_i hnul
    simp only [List.contains_iff_mem] at hnul
    simp [hnul]
  · rename_i hnul
    simp only [List.contains_iff_mem] at hnul
    split
    · rename_i hbelow
      obtain ⟨q, hq, hplace⟩ := isBelow_iff.mpr hbelow
      rw [hplace, List.drop_left]
      constructor
      · rintro ⟨⟩
        exact ⟨hnul, hq, rfl⟩
      · rintro ⟨-, -, h⟩
        rw [List.append_cancel_left h]
    · rename_i houtside
      refine ⟨fun h => Location.noConfusion h, fun ⟨_, hp, hplace⟩ => absurd ?_ houtside⟩
      exact isBelow_iff.mp ⟨p, hp, hplace⟩

/-- **When it is refused.** -/
theorem ofRef_outside_iff :
    ofRef root ref = .outside ↔ '\x00' ∉ ref.toList ∧ ¬ IsBelow root (place root ref) := by
  rw [isBelow_iff]
  unfold ofRef
  dsimp only
  split
  · rename_i hnul
    simp only [List.contains_iff_mem] at hnul
    simp [hnul]
  · rename_i hnul
    simp only [List.contains_iff_mem] at hnul
    split
    · rename_i hbelow
      simp [hbelow]
    · rename_i houtside
      simp [hnul, houtside]

theorem ofRef_invalid_iff : ofRef root ref = .invalid ↔ '\x00' ∈ ref.toList := by
  unfold ofRef
  dsimp only
  split
  · rename_i hnul
    simp only [List.contains_iff_mem] at hnul
    simp [hnul]
  · rename_i hnul
    simp only [List.contains_iff_mem] at hnul
    split <;> simp [hnul]

/-! ### Plain names -/

/-- Parts that name something and do not lead back. -/
theorem isPart_of_mem_parts {path part : List Char} (h : part ∈ FileName.parts path)
    (hdots : part ≠ ['.', '.']) : FileName.IsPart part := by
  obtain ⟨hsplit, hnamed⟩ := List.mem_filter.mp h
  have hnamed : part ≠ [] ∧ part ≠ ['.'] := by simpa using hnamed
  exact ⟨FileName.notMem_of_mem_split hsplit, hnamed.1, hnamed.2, hdots⟩

/-- What is reached is the start of the place that was left, with plain names behind it. -/
theorem exists_of_climb (kept : Path) {added : Path} {parts : List (List Char)}
    (hparts : ∀ part ∈ parts, part ≠ ['.', '.'] → FileName.IsPart part)
    (hadded : ∀ name ∈ added, FileName.IsPart name.toList) :
    ∃ kept' added', climb (kept ++ added) parts = kept' ++ added' ∧ kept' <+: kept ∧
      ∀ name ∈ added', FileName.IsPart name.toList := by
  induction parts generalizing kept added with
  | nil => exact ⟨kept, added, rfl, List.prefix_rfl, hadded⟩
  | cons part parts ih =>
    have hrest : ∀ part ∈ parts, part ≠ ['.', '.'] → FileName.IsPart part :=
      fun q hq => hparts q (List.mem_cons_of_mem part hq)
    rw [climb]
    split
    · by_cases hnil : added = []
      · -- what was added is used up, so the way back leads into what was there before
        subst hnil
        obtain ⟨kept', added', hclimb, hkept, hadded'⟩ := ih kept.dropLast hrest hadded
        rw [List.append_nil] at hclimb
        refine ⟨kept', added', ?_, hkept.trans (List.dropLast_prefix kept), hadded'⟩
        rw [List.append_nil, hclimb]
      · rw [List.dropLast_append_of_ne_nil hnil]
        exact ih kept hrest fun name hname => hadded name (List.dropLast_subset added hname)
    · rename_i hdots
      rw [List.append_assoc]
      refine ih kept hrest fun name hname => ?_
      rcases List.mem_append.mp hname with hname | hname
      · exact hadded name hname
      · rw [List.mem_singleton.mp hname, String.toList_ofList]
        exact hparts part List.mem_cons_self hdots

/-- What is below the root was reached by plain names. -/
theorem isPart_of_place (h : place root ref = root ++ p) : ∀ name ∈ p, FileName.IsPart name.toList := by
  have hstart : (if ref.toList.head? = some '/' then [] else root) <+: root := by
    split
    · exact List.nil_prefix
    · exact List.prefix_rfl
  obtain ⟨kept, added, hclimb, hkept, hadded⟩ :=
    exists_of_climb (if ref.toList.head? = some '/' then [] else root)
      (fun _ (hpart : _ ∈ FileName.parts ref.toList) hdots => isPart_of_mem_parts hpart hdots)
      (fun _ hname => absurd hname List.not_mem_nil)
  rw [List.append_nil] at hclimb
  obtain ⟨between, hroot⟩ := hkept.trans hstart
  rw [place, hclimb, ← hroot, List.append_assoc] at h
  intro name hname
  refine hadded name ?_
  rw [List.append_cancel_left h]
  exact List.mem_append_right between hname

end Sheetflow.Location
