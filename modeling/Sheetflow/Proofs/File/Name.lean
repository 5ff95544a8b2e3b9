import Mathlib.Data.List.Basic
import Sheetflow.File.Tree

/-!
# Names between slashes

A path is cut into pieces at its slashes.  A piece that is a plain name (`FileName.IsPart`) is found
again: it is the last part of a path that ends with it (`FileName.baseChars_append_slash`), and a
reference that ends with plain names leads to a place that does so too (`Location.exists_of_place`).
The names of outputs are plain (`FileName.isPart_ofOutput`).
-/

namespace Sheetflow

namespace FileName

/-! ### Pieces between slashes -/

theorem split_ne_nil (cs : List Char) : split cs ≠ [] := by
  cases cs with
  | nil => exact List.cons_ne_nil _ _
  | cons c cs =>
    rw [split]
    split
    · exact List.cons_ne_nil _ _
    · split <;> exact List.cons_ne_nil _ _

theorem split_append_slash (cs ds : List Char) :
    split (cs ++ '/' :: ds) = split cs ++ split ds := by
  induction cs with
  | nil => rfl
  | cons c cs ih =>
    rw [List.cons_append, split, split, ih]
    split
    · rfl
    · cases h : split cs with
      | nil => exact absurd h (split_ne_nil cs)
      | cons p ps => rfl

theorem split_of_notMem {cs : List Char} (h : '/' ∉ cs) : split cs = [cs] := by
  induction cs with
  | nil => rfl
  | cons c cs ih =>
    rw [List.mem_cons, not_or] at h
    rw [split, if_neg (fun hc => h.1 hc.symm), ih h.2]

theorem notMem_of_mem_split {cs p : List Char} (h : p ∈ split cs) : '/' ∉ p := by
  induction cs generalizing p with
  | nil =>
    rw [List.mem_singleton.mp h]
    exact List.not_mem_nil
  | cons c cs ih =>
    rw [split] at h
    split at h
    · rcases List.mem_cons.mp h with rfl | h
      · exact List.not_mem_nil
      · exact ih h
    · rename_i hc
      cases hs : split cs with
      | nil => exact absurd hs (split_ne_nil cs)
      | cons q qs =>
        rw [hs] at h
        rcases List.mem_cons.mp h with rfl | h
        · rw [List.mem_cons, not_or]
          exact ⟨fun h => hc h.symm, ih (hs ▸ List.mem_cons_self)⟩
        · exact ih (hs ▸ List.mem_cons_of_mem q h)

/-! ### Plain names -/

/-- A name that stands for a single place below another one. -/
structure IsPart (cs : List Char) : Prop where
  noSlash : '/' ∉ cs
  ne_nil : cs ≠ []
  ne_dot : cs ≠ ['.']
  ne_dots : cs ≠ ['.', '.']

theorem parts_append_slash (cs ds : List Char) :
    parts (cs ++ '/' :: ds) = parts cs ++ parts ds := by
  rw [parts, split_append_slash, List.filter_append]
  rfl

theorem IsPart.parts {cs : List Char} (h : IsPart cs) : parts cs = [cs] := by
  rw [FileName.parts, split_of_notMem h.noSlash, List.filter_cons_of_pos]
  · rfl
  · simp [h.ne_nil, h.ne_dot]

/-- The last part of a path is what stands behind its last slash, if that is a plain name. -/
theorem baseChars_append_slash {cs ds : List Char} (h : IsPart ds) :
    baseChars (cs ++ '/' :: ds) = ds := by
  rw [baseChars, parts_append_slash, h.parts, List.getLast?_concat, Option.getD_some]

theorem IsPart.baseChars {cs : List Char} (h : IsPart cs) : baseChars cs = cs := by
  rw [FileName.baseChars, h.parts]
  rfl

theorem noSlash_baseChars (cs : List Char) : '/' ∉ baseChars cs := by
  rw [baseChars]
  cases h : (parts cs).getLast? with
  | none => exact List.not_mem_nil
  | some p => exact notMem_of_mem_split (List.mem_of_mem_filter (List.mem_of_getLast? h))

theorem noSlash_stem (source : String) : '/' ∉ (stem source).toList := by
  rw [stem, String.toList_ofList]
  intro h
  refine noSlash_baseChars source.toList ?_
  rw [← splitSuffix_append (baseChars source.toList)]
  exact List.mem_append_left _ h

/-! ### Names of outputs -/

theorem toList_ofOutput (source delimiter : String) :
    (ofOutput source delimiter).toList =
      (if stem source = "" then "output" else stem source).toList ++
        ("_transformed." ++ (if delimiter = "\t" then "tsv" else "csv")).toList := by
  rw [ofOutput]
  simp only [String.toList_append, List.append_assoc]

/-- A name with an underscore is not made of points. -/
theorem isPart_of_mem {cs : List Char} (hslash : '/' ∉ cs) (hunderscore : '_' ∈ cs) : IsPart cs where
  noSlash := hslash
  ne_nil h := by
    rw [h] at hunderscore
    cases hunderscore
  ne_dot h := by
    rw [h] at hunderscore
    exact absurd hunderscore (by decide)
  ne_dots h := by
    rw [h] at hunderscore
    exact absurd hunderscore (by decide)

/-- **The name of an output is a plain name.** -/
theorem isPart_ofOutput (source delimiter : String) : IsPart (ofOutput source delimiter).toList := by
  have hstem : '/' ∉ (if stem source = "" then "output" else stem source).toList := by
    split
    · decide
    · exact noSlash_stem source
  have hending : '/' ∉ ("_transformed." ++ (if delimiter = "\t" then "tsv" else "csv")).toList ∧
      '_' ∈ ("_transformed." ++ (if delimiter = "\t" then "tsv" else "csv")).toList := by
    split <;> decide
  rw [toList_ofOutput]
  refine isPart_of_mem (fun h => ?_) (List.mem_append_right _ hending.2)
  rcases List.mem_append.mp h with h | h
  · exact hstem h
  · exact hending.1 h

end FileName

namespace Location

theorem climb_append (p : Path) (xs ys : List (List Char)) :
    climb p (xs ++ ys) = climb (climb p xs) ys := by
  induction xs generalizing p with
  | nil => rfl
  | cons x xs ih =>
    rw [List.cons_append, climb, climb]
    split
    · exact ih _
    · exact ih _

theorem climb_cons {x : List Char} (hx : FileName.IsPart x) (p : Path) (xs : List (List Char)) :
    climb p (x :: xs) = climb (p ++ [String.ofList x]) xs := by
  rw [climb, if_neg hx.ne_dots]

/-- **A reference that ends with two plain names leads to a place with these names.** -/
theorem exists_of_place (root : Path) {before a b : String} (ha : FileName.IsPart a.toList)
    (hb : FileName.IsPart b.toList) : ∃ q, place root (before ++ "/" ++ a ++ "/" ++ b) = q ++ [a, b] := by
  have htext : (before ++ "/" ++ a ++ "/" ++ b).toList =
      before.toList ++ '/' :: (a.toList ++ '/' :: b.toList) := by
    simp [String.toList_append]
  have hparts : FileName.parts (before ++ "/" ++ a ++ "/" ++ b).toList =
      FileName.parts before.toList ++ [a.toList, b.toList] := by
    rw [htext, FileName.parts_append_slash, FileName.parts_append_slash, ha.parts, hb.parts]
    rfl
  have hclimb (q : Path) : climb q [a.toList, b.toList] = q ++ [a, b] := by
    rw [climb_cons ha, climb_cons hb, String.ofList_toList, String.ofList_toList, List.append_assoc]
    rfl
  rw [place, hparts, climb_append, hclimb]
  exact ⟨_, rfl⟩

end Location

end Sheetflow
