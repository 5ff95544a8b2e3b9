import Sheetflow.Text.Case

/-!
# File names

A file is named by a path with slashes between its parts. Empty parts and single dots do not count, and
the last part that remains is the name proper. Its suffix starts at the last point, unless the name
starts or ends with that point; the stem is what stands before the suffix.
-/

namespace Sheetflow.FileName

/-- The pieces between slashes. -/
def split : List Char → List (List Char)
  | [] => [[]]
  | c :: cs =>
    if c = '/' then [] :: split cs
    else match split cs with
      | [] => [[c]]
      | piece :: pieces => (c :: piece) :: pieces

/-- The pieces that name something. -/
def parts (path : List Char) : List (List Char) :=
  (split path).filter fun p => p ≠ [] && p ≠ ['.']

/-- The last part, empty if there is none. -/
def baseChars (path : List Char) : List Char := (parts path).getLast?.getD []

/-- What stands before and behind the last point. -/
def atLastPoint? : List Char → Option (List Char × List Char)
  | [] => none
  | c :: cs =>
    match atLastPoint? cs with
    | some (before, behind) => some (c :: before, behind)
    | none => if c = '.' then some ([], cs) else none

/-- Stem and suffix of a name. -/
def splitSuffix (name : List Char) : List Char × List Char :=
  match atLastPoint? name with
  | some (before, behind) =>
    if before.isEmpty || behind.isEmpty then (name, []) else (before, '.' :: behind)
  | none => (name, [])

/-- The last part of a path. -/
def base (path : String) : String := String.ofList (baseChars path.toList)

def stem (path : String) : String := String.ofList (splitSuffix (baseChars path.toList)).1

/-- The suffix in lower case. -/
def suffix (path : String) : String :=
  Text.lower (String.ofList (splitSuffix (baseChars path.toList)).2)

/-- What kind of file a name announces. -/
inductive Kind where
  | spreadsheet
  | delimited
deriving DecidableEq, Repr

def kind? (path : String) : Option Kind :=
  match suffix path with
  | ".xlsx" => some .spreadsheet
  | ".xlsm" => some .spreadsheet
  | ".csv" => some .delimited
  | _ => none

/-- Can files of this name be read? -/
def isSupported (path : String) : Bool := (kind? path).isSome

/-- The name for the output that is made of a file. -/
def ofOutput (source delimiter : String) : String :=
  let stem := if stem source = "" then "output" else stem source
  stem ++ "_transformed." ++ (if delimiter = "\t" then "tsv" else "csv")

theorem eq_of_atLastPoint? {name before behind : List Char}
    (h : atLastPoint? name = some (before, behind)) : name = before ++ '.' :: behind := by
  induction name generalizing before with
  | nil => simp [atLastPoint?] at h
  | cons c cs ih =>
    simp only [atLastPoint?] at h
    split at h
    · rename_i b e hb
      simp only [Option.some.injEq, Prod.mk.injEq] at h
      obtain ⟨rfl, rfl⟩ := h
      simp [← ih hb]
    · split at h <;> simp_all

/-- Stem and suffix together are the name. -/
theorem splitSuffix_append (name : List Char) :
    (splitSuffix name).1 ++ (splitSuffix name).2 = name := by
  unfold splitSuffix
  split
  · rename_i before behind h
    split
    · simp
    · exact (eq_of_atLastPoint? h).symm
  · simp

end Sheetflow.FileName
