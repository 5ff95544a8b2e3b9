import Sheetflow.Number.Double

/-!
# Decimal text of doubles

A double is written with the fewest digits that read back as it, or with a given number of
significant digits, or with a given number of places. Choosing the digits (`shortest`,
`significant`) is kept apart from laying them out (`DecimalLayout.render`): the same digits stand
before or behind the point, or carry an exponent, as the layout says.
-/

namespace Sheetflow

/-- A positive decimal number: `digits` read as a fraction with the point before them, times ten to
the power `point`. -/
structure Decimal where
  digits : List Char
  point : Int

/-- Which numbers are written without an exponent, and whether a whole number keeps a point. -/
structure DecimalLayout where
  /-- Numbers whose point lies left of this place carry an exponent. -/
  lowest : Int
  /-- Numbers whose point lies right of this place carry an exponent. -/
  highest : Int
  /-- Is `.0` written behind a whole number? -/
  keepsPoint : Bool

namespace Decimal

def digitsOf (n : Nat) : List Char := Nat.toDigits 10 n

def dropTrailingZeros (ds : List Char) : List Char :=
  (ds.reverse.dropWhile (· == '0')).reverse

/-- `n · 10 ^ e` for a positive `n`. -/
def ofScaled (n : Nat) (e : Int) : Decimal :=
  let ds := digitsOf n
  ⟨dropTrailingZeros ds, ds.length + e⟩

/-- The place of the point of `n / d`: the number of digits before it, or minus the number of zeros
behind it. -/
def pointOf (n d : Nat) : Int :=
  if d ≤ n then (digitsOf (n / d)).length
  else 1 - ((digitsOf (d / n)).length : Int)

/-- `n / (d · 10 ^ e)` as a numerator and a denominator. -/
def onGrid (n d : Nat) (e : Int) : Nat × Nat :=
  if 0 ≤ e then (n, d * Nat.pow 10 e.toNat) else (n * Nat.pow 10 (-e).toNat, d)

/-- The multiple of `10 ^ e` nearest to `v / d` that lies between `lo / d` and `hi / d`, if either
neighbour does; the ends belong to the interval when `closed` holds, and a tie goes to the even
multiple. -/
def nearestOnGrid? (lo v hi d : Nat) (closed : Bool) (e : Int) : Option Nat :=
  let (a, b) := onGrid v d e
  let inside (c : Nat) : Bool :=
    let (x, _) := onGrid lo d e
    let (y, _) := onGrid hi d e
    if closed then x ≤ c * b && c * b ≤ y else x < c * b && c * b < y
  let low := a / b
  let high := low + 1
  match inside low, inside high with
  | true, true => some (roundHalfEven a b)
  | true, false => some low
  | false, true => some high
  | false, false => none

/-- The first of the grids with `k`, `k + 1`, … digits that meets the interval. -/
def firstOnGrid (lo v hi d : Nat) (closed : Bool) (point : Int) : Nat → Nat → Decimal
  | k, 0 => ofScaled (roundHalfEven (onGrid v d (point - k)).1 (onGrid v d (point - k)).2) (point - k)
  | k, more + 1 =>
    match nearestOnGrid? lo v hi d closed (point - k) with
    | some c => ofScaled c (point - k)
    | none => firstOnGrid lo v hi d closed point (k + 1) more

/-- The fewest digits that read back as the double `m · 2 ^ e`, and of those the nearest to it. -/
def shortest (m : Nat) (e : Int) : Decimal :=
  let below := if m = Nat.pow 2 52 && Double.minExponent < e then 1 else 2
  let (_, d) := Double.ratio 1 (e - 2)
  let part (k : Nat) : Nat := (Double.ratio k (e - 2)).1
  firstOnGrid (part (4 * m - below)) (part (4 * m)) (part (4 * m + 2)) d (m % 2 = 0)
    (pointOf (part (4 * m)) d) 1 17

/-- `n / d` rounded to `k` significant digits, trailing zeros dropped. -/
def significant (k : Nat) (n d : Nat) : Decimal :=
  let e := pointOf n d - k
  let (a, b) := onGrid n d e
  ofScaled (roundHalfEven a b) e

def zeros (n : Int) : List Char := List.replicate n.toNat '0'

/-- An exponent: a sign and at least two digits. -/
def exponentText (x : Int) : List Char :=
  let ds := digitsOf x.natAbs
  (if x < 0 then '-' else '+') :: (if ds.length < 2 then '0' :: ds else ds)

end Decimal

namespace DecimalLayout

def render (layout : DecimalLayout) (x : Decimal) : List Char :=
  let ds := x.digits
  let point := x.point
  if layout.lowest < point && point ≤ layout.highest then
    if point ≤ 0 then '0' :: '.' :: Decimal.zeros (-point) ++ ds
    else if (ds.length : Int) ≤ point then
      ds ++ Decimal.zeros (point - ds.length) ++ (if layout.keepsPoint then ['.', '0'] else [])
    else ds.take point.toNat ++ '.' :: ds.drop point.toNat
  else
    match ds with
    | [] => []
    | d :: more =>
      d :: (if more.isEmpty then [] else '.' :: more) ++ 'e' :: Decimal.exponentText (point - 1)

/-- Shortest texts are positional from `0.0001` to below `10 ^ 16` and show a point. -/
def plain : DecimalLayout := ⟨-4, 16, true⟩

/-- With `k` significant digits, numbers from `0.0001` to below `10 ^ k` are positional. -/
def general (k : Nat) : DecimalLayout := ⟨-4, k, false⟩

/-- The text of zero in this layout. -/
def zeroText (layout : DecimalLayout) : List Char := if layout.keepsPoint then ['0', '.', '0'] else ['0']

end DecimalLayout

namespace Double

def signText (negative : Bool) (cs : List Char) : String :=
  String.ofList (if negative then '-' :: cs else cs)

/-- The shortest text that reads back. -/
def text : Double → String
  | .nan => "nan"
  | .infinite s => if s then "-inf" else "inf"
  | .finite s m e =>
    signText s (if m = 0 then DecimalLayout.plain.zeroText
      else DecimalLayout.plain.render (Decimal.shortest m e))

/-- The text with `k` significant digits and no trailing zeros. -/
def generalText (k : Nat) : Double → String
  | .nan => "nan"
  | .infinite s => if s then "-inf" else "inf"
  | .finite s m e =>
    signText s (if m = 0 then (DecimalLayout.general k).zeroText
      else
        let (n, d) := ratio m e
        (DecimalLayout.general k).render (Decimal.significant k n d))

/-- The text with one place behind the point. -/
def tenthsText : Double → String
  | .nan => "nan"
  | .infinite s => if s then "-inf" else "inf"
  | .finite s m e =>
    let (n, d) := ratio m e
    let t := roundHalfEven (10 * n) d
    signText s (Decimal.digitsOf (t / 10) ++ '.' :: Decimal.digitsOf (t % 10))

end Double

end Sheetflow
