import Sheetflow.Text.Case
import Sheetflow.Text.Letter

/-!
# Letter codes of columns

Columns are counted A, B, …, Z, AA, …, ZZZ: numerals to base 26 with the digits 1 to 26 and no zero.
`indexOf` reads a code, `ofIndex` writes one. Codes are read in any case; at most three characters
are looked at, the last three of the capitals.
-/

namespace Sheetflow.Column

/-- Why a column has no index or no letter code. -/
inductive NameError where
  | notAName (name : String)
  | negativeIndex (index : Int)
  | beyondLast (number : Nat)
deriving DecidableEq

def NameError.message : NameError → String
  | .notAName name => s!"'{name}' is not a valid column name. Column names are from A to ZZZ"
  | .negativeIndex i => s!"Column index must be non-negative, got {i}"
  | .beyondLast n => s!"Invalid column index {n}"

/-- The number of columns that have a letter code. -/
def count : Nat := 18278

/-- A letter as a digit from 1 to 26. -/
def letterValue? (c : Char) : Option Nat :=
  if 'A' ≤ c ∧ c ≤ 'Z' then some (c.toNat - 64) else none

/-- The number that letters stand for, the least significant first and `weight` its weight. -/
def numberOf? (weight : Nat) : List Char → Option Nat
  | [] => some 0
  | c :: cs =>
    match letterValue? c, numberOf? (26 * weight) cs with
    | some v, some n => some (v * weight + n)
    | _, _ => none

/-- The index of a letter code, A having index 0. -/
def indexOf (name : String) : Except NameError Nat :=
  let cs := name.toList
  if 3 < cs.length then .error (.notAName name)
  else match numberOf? 1 ((cs.flatMap Text.capitals).reverse.take 3) with
    | some (n + 1) => .ok n
    | _ => .error (.notAName name)

/-- The letters of a column number, most significant first. -/
def lettersOf (n : Nat) : List Char :=
  if n = 0 then []
  else lettersOf ((n - 1) / 26) ++ [Char.ofNat (65 + (n - 1) % 26)]
termination_by n
decreasing_by have := Nat.div_le_self (n - 1) 26; omega

/-- The letter code of an index. -/
def ofIndex (index : Int) : Except NameError String :=
  if index < 0 then .error (.negativeIndex index)
  else
    let n := index.toNat + 1
    if count < n then .error (.beyondLast n) else .ok (String.ofList (lettersOf n))

end Sheetflow.Column
