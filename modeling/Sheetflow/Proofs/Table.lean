import Sheetflow.Table

/-!
# Tables put together and counted

Setting a key replaces at most one entry.  So how many entries of some kind a
table has changes by what the old value and the new one are, and by nothing
else (`countP_set_of_get?`, `countP_set_of_get?_none`).
-/

namespace Sheetflow.Table

variable {κ α : Type} [DecidableEq κ] {t : Table κ α} {k : κ} {a : α}

/-- Of two tables one behind the other the first counts. -/
@[simp] theorem get?_append (t u : Table κ α) (k : κ) :
    get? (t ++ u) k = (get? t k).or (get? u k) := by
  induction t with
  | nil => rfl
  | cons e t ih =>
    rw [List.cons_append, get?_cons, get?_cons, ih]
    by_cases h : e.1 = k
    · rw [if_pos h, if_pos h, Option.some_or]
    · rw [if_neg h, if_neg h]

theorem mem_of_get? (h : t.get? k = some a) : (k, a) ∈ t := by
  induction t with
  | nil => cases h
  | cons e t ih =>
    rw [get?_cons] at h
    by_cases he : e.1 = k
    · rw [if_pos he] at h
      exact List.mem_cons.mpr (.inl (Prod.ext he.symm (Option.some.inj h).symm))
    · rw [if_neg he] at h
      exact List.mem_cons_of_mem e (ih h)

theorem set_set (t : Table κ α) (k : κ) (a b : α) : (t.set k a).set k b = t.set k b := by
  induction t with
  | nil => simp [Table.set]
  | cons e t ih =>
    by_cases h : e.1 = k
    · simp [Table.set, h]
    · simp [Table.set, h, ih]

theorem set_of_get?_none (h : t.get? k = none) (a : α) : t.set k a = t ++ [(k, a)] := by
  induction t with
  | nil => rfl
  | cons e t ih =>
    rw [get?_cons] at h
    by_cases he : e.1 = k
    · rw [if_pos he] at h
      cases h
    · rw [if_neg he] at h
      rw [Table.set, if_neg he, ih h, List.cons_append]

/-- An entry of a table in which a key was set is the one that was set or one from before. -/
theorem get?_set_cases {l : κ} {b : α} (h : (t.set k a).get? l = some b) :
    (l = k ∧ b = a) ∨ (l ≠ k ∧ t.get? l = some b) := by
  by_cases hl : l = k
  · rw [hl, get?_set_self] at h
    exact .inl ⟨hl, (Option.some.inj h).symm⟩
  · rw [get?_set_ne _ _ hl] at h
    exact .inr ⟨hl, h⟩

/-- A new entry is counted if it is of the kind. -/
theorem countP_set_of_get?_none (p : κ × α → Bool) (h : t.get? k = none) (a : α) :
    (t.set k a).countP p = t.countP p + (if p (k, a) then 1 else 0) := by
  rw [set_of_get?_none h, List.countP_append, List.countP_singleton]

/-- A replaced entry is counted no more, the one in its place is. -/
theorem countP_set_of_get? (p : κ × α → Bool) (h : t.get? k = some a) (b : α) :
    (t.set k b).countP p + (if p (k, a) then 1 else 0) =
      t.countP p + (if p (k, b) then 1 else 0) := by
  induction t with
  | nil => cases h
  | cons e t ih =>
    rw [get?_cons] at h
    by_cases he : e.1 = k
    · rw [if_pos he] at h
      have hentry : e = (k, a) := Prod.ext he (Option.some.inj h)
      rw [Table.set, if_pos he, List.countP_cons, List.countP_cons, hentry]
      omega
    · rw [if_neg he] at h
      have := ih h
      rw [Table.set, if_neg he, List.countP_cons, List.countP_cons]
      omega

end Sheetflow.Table
