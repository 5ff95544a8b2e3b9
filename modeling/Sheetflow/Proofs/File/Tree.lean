import Sheetflow.File.Tree

/-!
# Files that were written

A file that was written is read back as it was written (`read_of_hasFile`), and stays what it is until
the same path is written again (`hasFile_of_write`).  Writing that fails makes directories at most
(`hasFile_of_write_error`).

Whether a file can be read depends on the other entries of the tree, because looking up stops at
what is missing.  So it is the names on the way that matter: none of them is too long (`Fits`), which
is what writing has made sure of.
-/

namespace Sheetflow

/-- No part of a path has too long a name, and there is one. -/
structure Path.Fits (p : Path) : Prop where
  ne_nil : p ≠ []
  parts : ∀ part ∈ p, FileTree.isTooLong part = false

namespace FileTree
variable {t t' : FileTree} {p q : Path} {bs bs' : Bytes} {e : FileFault}

/-- A file stands at a path. -/
def HasFile (t : FileTree) (p : Path) (bs : Bytes) : Prop := Table.get? t p = some (.file bs)

/-! ### Directories on the way -/

theorem getLast?_take {n : Nat} (h : n < p.length) : (p.take (n + 1)).getLast? = some p[n] := by
  rw [List.getLast?_take, if_neg (Nat.succ_ne_zero n), Nat.add_sub_cancel,
    List.getElem?_eq_getElem h, Option.some_or]

theorem exists_of_mem_ancestry (h : q ∈ ancestry p) : ∃ part ∈ p, q.getLast? = some part := by
  obtain ⟨n, hn, rfl⟩ := List.mem_map.mp h
  have hlt : n < p.length := List.mem_range.mp hn
  exact ⟨p[n], List.getElem_mem hlt, getLast?_take hlt⟩

theorem exists_mem_ancestry {part : String} (h : part ∈ p) :
    ∃ q ∈ ancestry p, q.getLast? = some part := by
  obtain ⟨n, hn, rfl⟩ := List.getElem_of_mem h
  exact ⟨p.take (n + 1), List.mem_map.mpr ⟨n, List.mem_range.mpr hn, rfl⟩, getLast?_take hn⟩

/-- A lookup along names that fit is never stopped by a name. -/
theorem obstacle?_ne_nameTooLong {ps : List Path}
    (h : ∀ q ∈ ps, ∀ part ∈ q.getLast?, isTooLong part = false) :
    t.obstacle? ps ≠ some .nameTooLong := by
  induction ps with
  | nil => exact nofun
  | cons q ps ih =>
    have hq : (q.getLast?).any isTooLong = false := by
      cases hl : q.getLast? with
      | none => rfl
      | some part => exact h q List.mem_cons_self part hl
    rw [obstacle?, if_neg (by rw [hq]; exact Bool.false_ne_true)]
    split
    · split <;> exact nofun
    · exact ih fun q' hq' => h q' (List.mem_cons_of_mem q hq')
    · exact nofun

/-- Making directories adds entries where there was none, and nothing else. -/
theorem get?_makeDirectories (t : FileTree) (ps : List Path) (q : Path) :
    Table.get? (t.makeDirectories ps).1 q = Table.get? t q ∨
      Table.get? t q = none ∧ Table.get? (t.makeDirectories ps).1 q = some .directory := by
  induction ps generalizing t with
  | nil => exact .inl rfl
  | cons p ps ih =>
    rw [makeDirectories]
    split
    · exact .inl rfl
    · split
      · exact ih t
      · rename_i hnone
        have hp : Table.get? t p = none := by
          unfold entry? at hnone
          split at hnone
          · exact absurd rfl hnone
          · simpa using hnone
        by_cases hqp : q = p
        · subst hqp
          refine .inr ⟨hp, ?_⟩
          rcases ih (Table.set t q .directory) with h | ⟨h, -⟩
          · rw [h, Table.get?_set_self]
          · rw [Table.get?_set_self] at h
            cases h
        · rcases ih (Table.set t p .directory) with h | ⟨h, hdir⟩
          · exact .inl (by rw [h, Table.get?_set_ne _ _ hqp])
          · rw [Table.get?_set_ne _ _ hqp] at h
            exact .inr ⟨h, hdir⟩

theorem hasFile_makeDirectories (t : FileTree) (ps : List Path) :
    (t.makeDirectories ps).1.HasFile q bs ↔ t.HasFile q bs := by
  unfold HasFile
  rcases get?_makeDirectories t ps q with h | ⟨h, hdir⟩
  · rw [h]
  · rw [h, hdir]
    exact ⟨nofun, nofun⟩

theorem isTooLong_of_makeDirectories {ps : List Path}
    (h : (t.makeDirectories ps).2 = .ok ()) :
    ∀ q ∈ ps, (q.getLast?).any isTooLong = false := by
  induction ps generalizing t with
  | nil => exact fun q hq => nomatch hq
  | cons p ps ih =>
    rw [makeDirectories] at h
    split at h
    · cases h
    · rename_i hp
      intro q hq
      rcases List.mem_cons.mp hq with rfl | hq
      · simpa using hp
      · exact ih h q hq

/-! ### Writing and reading -/

/-- All parts of a path fit if those of its directory do and its last one does. -/
theorem fits_of_dropLast (hne : p ≠ [])
    (hparent : ∀ q ∈ ancestry p.dropLast, (q.getLast?).any isTooLong = false)
    (hlast : (p.getLast?).any isTooLong = false) : p.Fits := by
  refine ⟨hne, fun part hpart => ?_⟩
  rw [← List.dropLast_concat_getLast hne] at hpart
  rcases List.mem_append.mp hpart with hpart | hpart
  · obtain ⟨q, hq, hqlast⟩ := exists_mem_ancestry hpart
    simpa [hqlast] using hparent q hq
  · obtain rfl := List.mem_singleton.mp hpart
    simpa [List.getLast?_eq_some_getLast hne] using hlast

/-- What writing a file comes to: a refusal, after some directories were made perhaps, or the file
behind them. -/
theorem write_cases (t : FileTree) (p : Path) (bs : Bytes) :
    (∃ e, (t.write p bs).2 = .error e ∧
        ∀ q bs', (t.write p bs).1.HasFile q bs' ↔ t.HasFile q bs') ∨
      ∃ t₀ : FileTree, t.write p bs = (Table.set t₀ p (.file bs), .ok ()) ∧ p.Fits ∧
        ∀ q bs', t₀.HasFile q bs' ↔ t.HasFile q bs' := by
  unfold write
  simp only
  cases hobstacle : t.obstacle? (ancestry p.dropLast) with
  | some kind => exact .inl ⟨_, rfl, fun _ _ => .rfl⟩
  | none =>
    have hkept (q : Path) (bs' : Bytes) :
        (t.makeDirectories (ancestry p.dropLast)).1.HasFile q bs' ↔ t.HasFile q bs' :=
      hasFile_makeDirectories t (ancestry p.dropLast)
    have hfit (h : (t.makeDirectories (ancestry p.dropLast)).2 = .ok ()) :
        ∀ q ∈ ancestry p.dropLast, (q.getLast?).any isTooLong = false :=
      isTooLong_of_makeDirectories h
    generalize t.makeDirectories (ancestry p.dropLast) = made at hkept hfit ⊢
    obtain ⟨t₀, e | ⟨⟩⟩ := made
    · exact .inl ⟨e, rfl, hkept⟩
    · by_cases hlast : (p.getLast?).any isTooLong = true
      · simp only [if_pos hlast]
        exact .inl ⟨_, rfl, hkept⟩
      · simp only [if_neg hlast]
        by_cases hne : p = []
        · subst hne
          exact .inl ⟨_, rfl, hkept⟩
        · have hfits : p.Fits := fits_of_dropLast hne (hfit rfl) (by simpa using hlast)
          cases hentry : t₀.entry? p with
          | none => exact .inr ⟨t₀, rfl, hfits, hkept⟩
          | some entry =>
            cases entry with
            | directory => exact .inl ⟨_, rfl, hkept⟩
            | file _ => exact .inr ⟨t₀, rfl, hfits, hkept⟩

theorem fits_of_write (h : t.write p bs = (t', .ok ())) : p.Fits := by
  rcases write_cases t p bs with ⟨e, he, -⟩ | ⟨t₀, -, hfits, -⟩
  · rw [h] at he
    cases he
  · exact hfits

/-- Writing that fails leaves the files as they are. -/
theorem hasFile_of_write_error (h : t.write p bs = (t', .error e)) :
    t'.HasFile q bs' ↔ t.HasFile q bs' := by
  rcases write_cases t p bs with ⟨e', -, hfiles⟩ | ⟨t₀, hwrite, -, -⟩
  · rw [h] at hfiles
    exact hfiles q bs'
  · rw [h] at hwrite
    cases hwrite

/-- The file is there when it was written, and the others stay what they are. -/
theorem hasFile_of_write (h : t.write p bs = (t', .ok ())) :
    t'.HasFile p bs ∧ ∀ q ≠ p, ∀ bs', t'.HasFile q bs' ↔ t.HasFile q bs' := by
  rcases write_cases t p bs with ⟨e, he, -⟩ | ⟨t₀, hwrite, -, hfiles⟩
  · rw [h] at he
    cases he
  · rw [h] at hwrite
    cases hwrite
    refine ⟨Table.get?_set_self _ _ _, fun q hq bs' => ?_⟩
    rw [← hfiles]
    unfold HasFile
    rw [Table.get?_set_ne _ _ hq]

theorem read_of_hasFile (hfits : p.Fits) (h : t.HasFile p bs) : t.read p = .ok (some bs) := by
  have hentry : t.entry? p = some (.file bs) := by
    unfold entry?
    rw [if_neg (by simpa using hfits.ne_nil)]
    exact h
  have hobstacle : t.obstacle? (ancestry p) ≠ some .nameTooLong := by
    refine obstacle?_ne_nameTooLong fun q hq part hpart => ?_
    obtain ⟨part', hpart', hlast⟩ := exists_of_mem_ancestry hq
    rw [hlast] at hpart
    cases hpart
    exact hfits.parts part hpart'
  unfold read
  split
  · contradiction
  · rw [hentry]

end FileTree

end Sheetflow
