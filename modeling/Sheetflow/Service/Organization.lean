import Sheetflow.Text.Letter

/-!
# Ids of organizations

An id is made of letters and digits of any script, underscores and hyphens, with a letter or a digit
among them.
-/

namespace Sheetflow.Organization

def isSeparator (c : Char) : Bool := c == '_' || c == '-'

def isValid (id : String) : Bool :=
  let cs := id.toList.filter (!isSeparator ·)
  !cs.isEmpty && cs.all Text.isAlphanumeric

/-- What is said about an id that is not valid. -/
def refusal (id : String) : String :=
  "Invalid organization ID format: '" ++ id ++
    "'. Must be alphanumeric with underscores or hyphens."

/-- Ids are letters, digits and separators only. -/
theorem all_of_isValid {id : String} (h : isValid id = true) :
    ∀ c ∈ id.toList, Text.isAlphanumeric c = true ∨ isSeparator c = true := by
  intro c hc
  by_cases hs : isSeparator c = true
  · exact .inr hs
  · refine .inl ?_
    simp only [isValid, Bool.and_eq_true, List.all_eq_true] at h
    exact h.2 c (List.mem_filter.2 ⟨hc, by simp [hs]⟩)

end Sheetflow.Organization
