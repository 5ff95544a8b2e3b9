import Mathlib.Data.List.DropRight
import Sheetflow.Proofs.Column.Header

/-!
# Trimmed text

Trimming a second time changes nothing (`trim_trim`), it gives a text back that blanks were put around
(`trim_surrounded`), and a text is blank if and only if it is blank when trimmed.
-/

namespace Sheetflow.Text

theorem trimEnd_isPrefix (cs : List Char) : trimEnd cs <+: cs := List.rdropWhile_prefix isBlank cs

theorem trimEnd_trimEnd (cs : List Char) : trimEnd (trimEnd cs) = trimEnd cs :=
  List.rdropWhile_idempotent isBlank cs

/-- What is left of a trimmed start does not start with a blank. -/
theorem trimStart_of_prefix {cs ds : List Char} (h : ds <+: trimStart cs) : trimStart ds = ds := by
  cases ds with
  | nil => rfl
  | cons d ds =>
    obtain ⟨rest, hrest⟩ := h
    have hd : isBlank d = false := by
      have hhead := List.head?_dropWhile_not isBlank cs
      rw [show List.dropWhile isBlank cs = d :: (ds ++ rest) from hrest.symm] at hhead
      simpa using hhead
    rw [trimStart, List.dropWhile_cons_of_neg (by simp [hd])]

theorem trim_trim (s : String) : trim (trim s) = trim s := by
  have hstart : trimStart (trimEnd (trimStart s.toList)) = trimEnd (trimStart s.toList) :=
    trimStart_of_prefix (trimEnd_isPrefix _)
  rw [trim, trim, String.toList_ofList, hstart, trimEnd_trimEnd]

/-- Trimming takes the blanks off a text without blanks. -/
theorem trim_surrounded {before cs after : List Char} (hbefore : ∀ c ∈ before, isBlank c = true)
    (hafter : ∀ c ∈ after, isBlank c = true) (hcs : ∀ c ∈ cs, isBlank c = false) :
    trim (String.ofList (before ++ cs ++ after)) = String.ofList cs := by
  have hkeep {ds : List Char} (hds : ∀ c ∈ ds, isBlank c = false) : ds.dropWhile isBlank = ds := by
    cases ds with
    | nil => rfl
    | cons d ds => exact List.dropWhile_cons_of_neg (by simp [hds d List.mem_cons_self])
  have hstart : trimStart (before ++ cs ++ after) = if cs = [] then [] else cs ++ after := by
    rw [trimStart, List.append_assoc, List.dropWhile_append_of_pos hbefore]
    cases cs with
    | nil => exact List.dropWhile_eq_nil_iff.mpr hafter
    | cons c cs => exact List.dropWhile_cons_of_neg (by simp [hcs c List.mem_cons_self])
  have hend : trimEnd (cs ++ after) = cs := by
    rw [trimEnd, List.reverse_append,
      List.dropWhile_append_of_pos fun c hc => hafter c (List.mem_reverse.mp hc),
      hkeep fun c hc => hcs c (List.mem_reverse.mp hc), List.reverse_reverse]
  rw [trim, String.toList_ofList, hstart]
  split
  · next hnil => rw [hnil]; rfl
  · rw [hend]

theorem isBlankText_trim (s : String) : isBlankText (trim s) = isBlankText s := by
  rw [Bool.eq_iff_iff, ← trim_eq_empty_iff, ← trim_eq_empty_iff, trim_trim]

end Sheetflow.Text
