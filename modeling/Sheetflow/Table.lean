/-!
# Tables

A table gives values to keys and keeps them in the order in which they came. Setting a key that is
there replaces its value in place.
-/

namespace Sheetflow

abbrev Table (κ α : Type) := List (κ × α)

namespace Table

variable {κ α : Type} [DecidableEq κ]

def get? (t : Table κ α) (k : κ) : Option α := List.lookup k t

def set (t : Table κ α) (k : κ) (a : α) : Table κ α :=
  match t with
  | [] => [(k, a)]
  | e :: t => if e.1 = k then (k, a) :: t else e :: Table.set t k a

def erase (t : Table κ α) (k : κ) : Table κ α := t.filter fun e => e.1 ≠ k

def keys (t : Table κ α) : List κ := t.map (·.1)

@[simp] theorem get?_nil (k : κ) : get? ([] : Table κ α) k = none := rfl

theorem get?_cons (e : κ × α) (t : Table κ α) (k : κ) :
    get? (e :: t) k = if e.1 = k then some e.2 else get? t k := by
  obtain ⟨l, a⟩ := e
  rw [get?, List.lookup_cons]
  by_cases h : l = k
  · rw [beq_iff_eq.mpr h.symm, if_pos h]
  · rw [beq_eq_false_iff_ne.mpr (Ne.symm h), if_neg h, get?]

@[simp] theorem get?_set_self (t : Table κ α) (k : κ) (a : α) : (t.set k a).get? k = some a := by
  induction t with
  | nil => simp [Table.set, get?_cons]
  | cons e t ih =>
    simp only [Table.set]
    split <;> simp_all [get?_cons]

theorem get?_set_ne (t : Table κ α) {k l : κ} (a : α) (h : l ≠ k) : (t.set k a).get? l = t.get? l := by
  induction t with
  | nil => simp [Table.set, get?_cons, h.symm]
  | cons e t ih =>
    simp only [Table.set]
    split
    · rename_i he; subst he; simp [get?_cons, h.symm]
    · simp [get?_cons, ih]

@[simp] theorem get?_erase_self (t : Table κ α) (k : κ) : (t.erase k).get? k = none := by
  induction t with
  | nil => rfl
  | cons e t ih =>
    by_cases h : e.1 = k
    · simpa [erase, h] using ih
    · simpa [erase, h, get?_cons] using ih

theorem get?_erase_ne (t : Table κ α) {k l : κ} (h : l ≠ k) : (t.erase k).get? l = t.get? l := by
  induction t with
  | nil => rfl
  | cons e t ih =>
    by_cases he : e.1 = k
    · subst he; simpa [erase, get?_cons, h.symm] using ih
    · simp only [erase, ne_eq, he, not_false_eq_true, decide_true, List.filter_cons_of_pos, get?_cons] at ih ⊢
      split
      · rfl
      · exact ih

end Table

end Sheetflow
