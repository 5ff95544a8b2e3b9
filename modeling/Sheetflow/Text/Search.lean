/-!
# Finding and replacing texts

Whether a text occurs in another, and the replacement of all its occurrences from left to right,
none overlapping the one before. Both walk the text once; a replaced occurrence is skipped by
counting.
-/

namespace Sheetflow.Text

/-- Does `needle` occur in the text? -/
def occursIn (needle : List Char) : List Char → Bool
  | [] => needle.isEmpty
  | c :: cs => needle.isPrefixOf (c :: cs) || occursIn needle cs

/-- Replace the occurrences of `find` in what is left after `skip` characters. -/
def replaceAfter (find by_ : List Char) : Nat → List Char → List Char
  | _, [] => []
  | skip + 1, _ :: cs => replaceAfter find by_ skip cs
  | 0, c :: cs =>
    if find.isPrefixOf (c :: cs) then by_ ++ replaceAfter find by_ (find.length - 1) cs
    else c :: replaceAfter find by_ 0 cs

/-- Replace every occurrence of `find`, which is not empty. -/
def replace (find by_ text : String) : String :=
  String.ofList (replaceAfter find.toList by_.toList 0 text.toList)

def contains (text needle : String) : Bool := occursIn needle.toList text.toList

theorem occursIn_iff {needle text : List Char} : occursIn needle text = true ↔ needle <:+: text := by
  induction text with
  | nil => simp [occursIn, List.isEmpty_iff]
  | cons c cs ih => simp [occursIn, ih, List.infix_cons_iff]

/-- A text that does not occur is not replaced. -/
theorem replaceAfter_of_not_occursIn {find by_ text : List Char} (h : occursIn find text = false) :
    replaceAfter find by_ 0 text = text := by
  induction text with
  | nil => rfl
  | cons c cs ih =>
    simp only [occursIn, Bool.or_eq_false_iff] at h
    simp [replaceAfter, h.1, ih h.2]

theorem replace_of_not_contains {find text : String} (h : contains text find = false) (by_ : String) :
    replace find by_ text = text := by
  rw [replace, replaceAfter_of_not_occursIn h, String.ofList_toList]

end Sheetflow.Text
