/-!
# Classes of characters given by ranges

A class of characters is written as the list of its ranges of code points, both ends included. The
tables of the neighbouring modules are values of this type, so that one membership test serves
letters, digits, case and printing.
-/

namespace Sheetflow.Text

/-- Closed ranges of code points, in ascending order. -/
abbrev Ranges := List (Nat × Nat)

/-- Does one of the ranges hold the character? -/
def Ranges.contains (rs : Ranges) (c : Char) : Bool :=
  rs.any fun r => r.1 ≤ c.toNat && c.toNat ≤ r.2

end Sheetflow.Text
