/-!
# Binary floating-point numbers, exactly

A double is kept as what it stands for: a sign, a whole mantissa and a power of two. Every finite
value is in canonical form, so two doubles are the same value exactly when they are equal terms,
save that zero has two signs. All rounding happens in `ofRatio`, which takes a quotient of naturals to
the nearest double, a tie to the even mantissa.
-/

namespace Sheetflow

/-- A 64-bit floating-point number; `finite s m e` is `± m · 2 ^ e`. -/
inductive Double where
  | nan
  | infinite (negative : Bool)
  | finite (negative : Bool) (mantissa : Nat) (exponent : Int)
deriving DecidableEq, Repr, Inhabited

/-- The quotient `n / d` rounded to the nearest whole number, a tie to the even one. -/
def roundHalfEven (n d : Nat) : Nat :=
  let q := n / d
  let r := n % d
  if 2 * r < d then q
  else if d < 2 * r then q + 1
  else if q % 2 = 0 then q else q + 1

theorem le_roundHalfEven (n d : Nat) : n / d ≤ roundHalfEven n d := by
  simp only [roundHalfEven]; repeat' split
  all_goals omega

/-- A whole multiple rounds to itself. -/
theorem roundHalfEven_mul (q : Nat) {d : Nat} (h : 0 < d) : roundHalfEven (q * d) d = q := by
  simp [roundHalfEven, Nat.mul_div_cancel _ h, h]

namespace Double

/-- The exponent of the smallest positive double. -/
def minExponent : Int := -1074

/-- The largest exponent of a finite double. -/
def maxExponent : Int := 971

def zero (negative : Bool) : Double := .finite negative 0 minExponent

/-- `n · 2 ^ (-e)` over `d`, as a numerator and a denominator. -/
def scale (n d : Nat) (e : Int) : Nat × Nat :=
  if 0 ≤ e then (n, d * Nat.pow 2 e.toNat) else (n * Nat.pow 2 (-e).toNat, d)

/-- The double nearest to `n / d`. -/
def ofRatio (negative : Bool) (n d : Nat) : Double :=
  if n = 0 || d = 0 then zero negative
  else
    let guess : Int := (n.log2 : Int) - (d.log2 : Int) - 52
    let (a, b) := scale n d guess
    let exact := if a / b < Nat.pow 2 52 then guess - 1 else guess
    let e := max exact minExponent
    let (a, b) := scale n d e
    let m := roundHalfEven a b
    let (m, e) := if m = Nat.pow 2 53 then (Nat.pow 2 52, e + 1) else (m, e)
    if maxExponent < e then .infinite negative else .finite negative m e

def ofInt (i : Int) : Double := ofRatio (i < 0) i.natAbs 1

/-- Beyond this many places before the point every double is infinite, and as many places after it
every double is zero. -/
def decimalReach : Int := 400

/-- The double nearest to `n · 10 ^ e`. -/
def ofDecimal (negative : Bool) (n : Nat) (e : Int) : Double :=
  if n = 0 then zero negative
  else
    let places : Int := (Nat.toDigits 10 n).length + e
    if decimalReach < places then .infinite negative
    else if places < -decimalReach then zero negative
    else if 0 ≤ e then ofRatio negative (n * Nat.pow 10 e.toNat) 1
    else ofRatio negative n (Nat.pow 10 (-e).toNat)

/-- A finite magnitude as a numerator over a power of two. -/
def ratio (m : Nat) (e : Int) : Nat × Nat :=
  if 0 ≤ e then (m * Nat.pow 2 e.toNat, 1) else (m, Nat.pow 2 (-e).toNat)

/-- The value, if it is a whole number. -/
def toInt? : Double → Option Int
  | .finite s m e =>
    let (n, d) := ratio m e
    if n % d = 0 then some (if s then -((n / d : Nat) : Int) else ((n / d : Nat) : Int)) else none
  | _ => none

def isNegative : Double → Bool
  | .nan => false
  | .infinite s => s
  | .finite s _ _ => s

def isFinite : Double → Bool
  | .finite _ _ _ => true
  | _ => false

def isZero : Double → Bool
  | .finite _ m _ => m == 0
  | _ => false

/-- A finite double as a signed numerator over a power of two. -/
def signedRatio (s : Bool) (m : Nat) (e : Int) : Int × Nat :=
  let (n, d) := ratio m e
  (if s then -(n : Int) else (n : Int), d)

/-- Strictly below; nothing is below or above what is not a number. -/
def lt : Double → Double → Bool
  | .nan, _ => false
  | _, .nan => false
  | .infinite s, .infinite t => s && !t
  | .infinite s, .finite _ _ _ => s
  | .finite _ _ _, .infinite t => !t
  | .finite s m e, .finite t n f =>
    let (a, b) := signedRatio s m e
    let (c, d) := signedRatio t n f
    a * d < c * b

/-- Equality of values: the two zeros are the same, and what is not a number equals nothing. -/
def same : Double → Double → Bool
  | .nan, _ => false
  | _, .nan => false
  | x, y => if x.isZero && y.isZero then true else x == y

def neg : Double → Double
  | .nan => .nan
  | .infinite s => .infinite (!s)
  | .finite s m e => .finite (!s) m e

/-- The double nearest to `a / b`. -/
def ofSignedRatio (a : Int) (b : Nat) : Double := ofRatio (a < 0) a.natAbs b

/-- The sum, rounded. -/
def add : Double → Double → Double
  | .finite s m e, .finite t n f =>
    let (a, b) := signedRatio s m e
    let (c, d) := signedRatio t n f
    if a * d + c * b = 0 then zero (s && t) else ofSignedRatio (a * d + c * b) (b * d)
  | .infinite s, .infinite t => if s == t then .infinite s else .nan
  | .infinite s, .finite _ _ _ => .infinite s
  | .finite _ _ _, .infinite t => .infinite t
  | _, _ => .nan

/-- The product, rounded. -/
def mul : Double → Double → Double
  | .finite s m e, .finite t n f =>
    let (a, b) := ratio m e
    let (c, d) := ratio n f
    ofRatio (s != t) (a * c) (b * d)
  | .nan, _ => .nan
  | _, .nan => .nan
  | x, y =>
    if x.isZero || y.isZero then .nan else .infinite (x.isNegative != y.isNegative)

end Double

end Sheetflow
