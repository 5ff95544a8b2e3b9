import Mathlib.Algebra.Order.Field.Power
import Mathlib.Algebra.Order.Field.Rat
import Sheetflow.Number.Double

/-!
# Quotients that are doubles

A finite double stands for a rational number (`Double.value`), and finite doubles are compared as these
numbers are (`Double.lt_iff_value_lt`).

A whole number over a power of two is rounded to 53 bits (`Double.ofRatio_two_pow`).  One of at most
53 bits needs no rounding: its mantissa is the number itself, moved up, so the nearest double is the
quotient (`Double.value_ofSignedRatio`).  One of more bits is not rounded down among the quotients of
those that have fewer (`Double.lt_ofSignedRatio`).
-/

namespace Sheetflow.Double

/-- The number that a finite double stands for. -/
def value : Double → ℚ
  | .finite s m e => ((signedRatio s m e).1 : ℚ) / (signedRatio s m e).2
  | _ => 0

theorem signedRatio_pos (s : Bool) (m : Nat) (e : Int) : 0 < (signedRatio s m e).2 := by
  unfold signedRatio ratio
  by_cases he : 0 ≤ e
  · rw [if_pos he]
    exact Nat.one_pos
  · rw [if_neg he]
    exact Nat.two_pow_pos _

/-- **Finite doubles are compared as numbers.** -/
theorem lt_iff_value_lt {x y : Double} (hx : x.isFinite = true) (hy : y.isFinite = true) :
    x.lt y = true ↔ x.value < y.value := by
  cases x with
  | nan => cases hx
  | infinite s => cases hx
  | finite s m e =>
    cases y with
    | nan => cases hy
    | infinite t => cases hy
    | finite t n f =>
      have hpos : (0 : ℚ) < (signedRatio s m e).2 := Nat.cast_pos.mpr (signedRatio_pos s m e)
      have hpos' : (0 : ℚ) < (signedRatio t n f).2 := Nat.cast_pos.mpr (signedRatio_pos t n f)
      have hlt : lt (.finite s m e) (.finite t n f) = true ↔
          (signedRatio s m e).1 * (signedRatio t n f).2 <
            (signedRatio t n f).1 * (signedRatio s m e).2 := decide_eq_true_iff
      rw [hlt, value, value, div_lt_div_iff₀ hpos hpos']
      exact_mod_cast Iff.rfl

/-- A number that is moved until its first bit has 52 places behind it has 53 bits before the point. -/
theorem le_scale {n : Nat} (hn : n ≠ 0) (k : Nat) :
    2 ^ 52 ≤ (scale n (2 ^ k) (n.log2 - k - 52)).1 / (scale n (2 ^ k) (n.log2 - k - 52)).2 := by
  have hfirst := Nat.log2_self_le hn
  rw [scale]
  by_cases hguess : (0 : Int) ≤ n.log2 - k - 52
  · obtain ⟨p, hp⟩ := Int.eq_ofNat_of_zero_le hguess
    rw [if_pos hguess, hp, Int.toNat_natCast, Nat.pow_eq,
      Nat.le_div_iff_mul_le (Nat.mul_pos (Nat.two_pow_pos _) (Nat.two_pow_pos _)), ← Nat.pow_add,
      ← Nat.pow_add, show 52 + (k + p) = n.log2 by omega]
    exact hfirst
  · obtain ⟨p, hp⟩ : ∃ p : Nat, (n.log2 : Int) - k - 52 = -(p : Int) :=
      ⟨(-((n.log2 : Int) - k - 52)).toNat, by omega⟩
    rw [if_neg hguess, hp, Int.neg_neg, Int.toNat_natCast, Nat.pow_eq,
      Nat.le_div_iff_mul_le (Nat.two_pow_pos _), ← Nat.pow_add, show 52 + k = n.log2 + p by omega,
      Nat.pow_add]
    exact Nat.mul_le_mul_right _ hfirst

/-- The double with a rounded mantissa, unless it is too large. -/
def ofRounded (negative : Bool) (m : Nat) (e : Int) : Double :=
  let (m, e) := if m = Nat.pow 2 53 then (Nat.pow 2 52, e + 1) else (m, e)
  if maxExponent < e then .infinite negative else .finite negative m e

/-- A quotient by a power of two is rounded behind the first 53 bits. -/
theorem ofRatio_two_pow (negative : Bool) {n k : Nat} (hn : n ≠ 0) (hk : k ≤ 1022) :
    ofRatio negative n (2 ^ k) = ofRounded negative
      (roundHalfEven (scale n (2 ^ k) (n.log2 - k - 52)).1 (scale n (2 ^ k) (n.log2 - k - 52)).2)
      (n.log2 - k - 52) := by
  have hfull := le_scale hn k
  have hexact : max ((n.log2 : Int) - k - 52) minExponent = n.log2 - k - 52 := by
    rw [minExponent]
    omega
  have hzero : ¬ (decide (n = 0) || decide (2 ^ k = 0)) = true := by
    simp [hn]
  rw [ofRatio, if_neg hzero]
  simp only [Nat.log2_two_pow]
  rw [if_neg (show ¬ _ < Nat.pow 2 52 from Nat.not_lt.mpr hfull), hexact]
  rfl

/-- A whole number of at most 53 bits is its own mantissa, moved up. -/
theorem ofRatio_two_pow_small (negative : Bool) {n k : Nat} (hn : n ≠ 0) (hbits : n < 2 ^ 53)
    (hk : 0 < k) (hsmall : k ≤ 1022) :
    ofRatio negative n (2 ^ k) =
      .finite negative (n * 2 ^ (52 - n.log2)) (-((52 - n.log2 + k : Nat) : Int)) := by
  have hlog : n.log2 ≤ 52 := Nat.le_of_lt_succ ((Nat.log2_lt hn).mpr hbits)
  have hhigh : n * 2 ^ (52 - n.log2) < 2 ^ 53 := by
    have := Nat.mul_lt_mul_of_pos_right (Nat.lt_log2_self (n := n)) (Nat.two_pow_pos (52 - n.log2))
    rwa [← Nat.pow_add, show n.log2 + 1 + (52 - n.log2) = 53 by omega] at this
  have hguess : (n.log2 : Int) - k - 52 = -((52 - n.log2 + k : Nat) : Int) := by omega
  have hscale : scale n (2 ^ k) (-((52 - n.log2 + k : Nat) : Int)) =
      (n * 2 ^ (52 - n.log2) * 2 ^ k, 2 ^ k) := by
    rw [scale, if_neg (by omega), Int.neg_neg, Int.toNat_natCast]
    exact Prod.ext ((congrArg (n * ·) (Nat.pow_add 2 _ _)).trans (Nat.mul_assoc _ _ _).symm) rfl
  rw [ofRatio_two_pow negative hn hsmall, hguess, hscale, roundHalfEven_mul _ (Nat.two_pow_pos k),
    ofRounded, if_neg (show ¬ n * 2 ^ (52 - n.log2) = Nat.pow 2 53 from Nat.ne_of_lt hhigh)]
  exact if_neg (show ¬ (971 : Int) < -((52 - n.log2 + k : Nat) : Int) by omega)

/-- A whole number of more than 53 bits keeps a mantissa of 53, at a place that is not too small. -/
theorem ofRatio_two_pow_large (negative : Bool) {n k : Nat} (hn : 2 ^ 53 ≤ n) (hk : k ≤ 1022) :
    ∃ m e, 2 ^ 52 ≤ m ∧ 1 - (k : Int) ≤ e ∧ ofRatio negative n (2 ^ k) =
      if maxExponent < e then .infinite negative else .finite negative m e := by
  have hzero : n ≠ 0 := by omega
  have hlog : 53 ≤ n.log2 := (Nat.le_log2 hzero).mpr hn
  have hround := Nat.le_trans (le_scale hzero k) (le_roundHalfEven _ _)
  rw [ofRatio_two_pow negative hzero hk]
  generalize roundHalfEven _ _ = m at hround ⊢
  rw [ofRounded]
  by_cases hcarry : m = Nat.pow 2 53
  · rw [if_pos hcarry]
    exact ⟨Nat.pow 2 52, (n.log2 : Int) - k - 52 + 1, Nat.le_refl _, by omega, rfl⟩
  · rw [if_neg hcarry]
    exact ⟨m, (n.log2 : Int) - k - 52, hround, by omega, rfl⟩

/-- The number of a finite magnitude. -/
theorem ratio_eq (m : Nat) (e : Int) : ((ratio m e).1 : ℚ) / (ratio m e).2 = m * 2 ^ e := by
  rw [ratio]
  by_cases he : 0 ≤ e
  · obtain ⟨p, rfl⟩ := Int.eq_ofNat_of_zero_le he
    rw [if_pos he, Int.toNat_natCast, zpow_natCast]
    push_cast [Nat.pow_eq]
    exact div_one _
  · obtain ⟨p, rfl⟩ : ∃ p : Nat, e = -(p : Int) := ⟨(-e).toNat, by omega⟩
    rw [if_neg he, Int.neg_neg, Int.toNat_natCast, zpow_neg, zpow_natCast]
    push_cast [Nat.pow_eq]
    exact div_eq_mul_inv _ _

/-- The number of a finite double. -/
theorem value_finite (s : Bool) (m : Nat) (e : Int) :
    (finite s m e).value = (if s then -1 else 1) * (m * 2 ^ e) := by
  rw [← ratio_eq]
  cases s with
  | false => exact (one_mul _).symm
  | true =>
    show ((-((ratio m e).1 : Int) : Int) : ℚ) / (ratio m e).2 = -1 * _
    rw [Int.cast_neg, Int.cast_natCast, neg_div, neg_one_mul]

/-- A whole number is its size with its sign. -/
theorem signed_natAbs (a : Int) : (if decide (a < 0) then -1 else 1) * (a.natAbs : ℚ) = a := by
  by_cases hneg : a < 0
  · rw [if_pos (decide_eq_true hneg), neg_one_mul, ← Int.cast_natCast,
      Int.ofNat_natAbs_of_nonpos (Int.le_of_lt hneg), Int.cast_neg, neg_neg]
  · rw [if_neg (by simpa using hneg), one_mul, ← Int.cast_natCast,
      Int.natAbs_of_nonneg (Int.not_lt.mp hneg)]

theorem value_of_isZero {x : Double} (h : x.isZero = true) : x.value = 0 := by
  cases x with
  | nan => rfl
  | infinite s => rfl
  | finite s m e =>
    have hm : m = 0 := eq_of_beq h
    rw [value_finite, hm, Nat.cast_zero, zero_mul, mul_zero]

/-- A double above zero is not zero. -/
theorem isZero_of_pos {x : Double} (h : (zero false).lt x = true) : x.isZero = false := by
  refine Bool.eq_false_iff.mpr fun hx => ?_
  have hfinite : x.isFinite = true := by
    cases x with
    | nan => cases hx
    | infinite s => cases hx
    | finite s m e => rfl
  rw [lt_iff_value_lt rfl hfinite, value_of_isZero rfl, value_of_isZero hx] at h
  exact lt_irrefl _ h

/-- **The nearest double is the quotient** for a whole number of at most 53 bits over a power of two. -/
theorem value_ofSignedRatio {a : Int} {k : Nat} (ha : a.natAbs < 2 ^ 53) (hk : 0 < k)
    (hsmall : k ≤ 1022) :
    (ofSignedRatio a (2 ^ k)).isFinite = true ∧
      (ofSignedRatio a (2 ^ k)).value = (a : ℚ) / 2 ^ k := by
  by_cases hzero : a = 0
  · subst hzero
    have hvalue : (zero false).value = 0 := value_of_isZero rfl
    exact ⟨rfl, hvalue.trans (zero_div _).symm⟩
  · rw [ofSignedRatio, ofRatio_two_pow_small _ (Int.natAbs_ne_zero.mpr hzero) ha hk hsmall]
    refine ⟨rfl, ?_⟩
    have hpow : (2 : ℚ) ^ (52 - a.natAbs.log2) ≠ 0 := pow_ne_zero _ two_ne_zero
    calc (finite (a < 0) (a.natAbs * 2 ^ (52 - a.natAbs.log2)) _).value
      _ = (if decide (a < 0) then -1 else 1) * (a.natAbs : ℚ) *
          (2 ^ (52 - a.natAbs.log2) / 2 ^ (52 - a.natAbs.log2 + k)) := by
        rw [value_finite, zpow_neg, zpow_natCast, ← div_eq_mul_inv, Nat.cast_mul, Nat.cast_pow,
          Nat.cast_ofNat, mul_div_assoc, mul_assoc]
      _ = a / 2 ^ k := by
        rw [signed_natAbs, pow_add, ← div_div, div_self hpow, mul_one_div]

/-- **The nearest double stays above** the quotients of at most 53 bits, for a whole number of more bits
over a power of two. -/
theorem lt_ofSignedRatio {x : Double} (hx : x.isFinite = true) {n k : Nat} (hn : 2 ^ 53 ≤ n)
    (hk : k ≤ 1022) (hlt : x.value < 2 ^ 53 / 2 ^ k) : x.lt (ofSignedRatio n (2 ^ k)) = true := by
  obtain ⟨m, e, hm, he, hround⟩ := ofRatio_two_pow_large false hn hk
  have hratio : ofSignedRatio n (2 ^ k) = ofRatio false n (2 ^ k) := by
    rw [ofSignedRatio, Int.natAbs_natCast, decide_eq_false (by omega)]
  rw [hratio, hround]
  split
  · cases x with
    | nan => cases hx
    | infinite s => cases hx
    | finite s m e => rfl
  · rw [lt_iff_value_lt hx rfl]
    calc x.value < 2 ^ 53 / 2 ^ k := hlt
      _ = 2 ^ 52 * 2 ^ (1 - (k : Int)) := by
        rw [zpow_sub₀ two_ne_zero, zpow_natCast, zpow_one, ← mul_div_assoc, ← pow_succ]
      _ ≤ m * 2 ^ e := mul_le_mul (by exact_mod_cast hm) (zpow_le_zpow_right₀ one_le_two he)
        (zpow_nonneg zero_le_two _) (Nat.cast_nonneg m)
      _ = (finite false m e).value := by rw [value_finite, if_neg Bool.false_ne_true, one_mul]

end Sheetflow.Double
