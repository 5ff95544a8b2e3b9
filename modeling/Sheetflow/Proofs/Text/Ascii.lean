import Mathlib.Data.List.Basic
import Sheetflow.Text.Blank
import Sheetflow.Text.Case
import Sheetflow.Text.Digit
import Sheetflow.Text.Letter

/-!
# Letters and digits of ASCII

Neither is a blank, a letter is no digit, and the capital of a letter is a letter from A to Z and nothing
else.  The value of a numeral written in these digits is its value in base ten (`Text.numeralValue_eq`),
whatever zeros it starts with (`Text.numeralValue_zeros`).
-/

namespace Sheetflow.Text

variable {c : Char}

theorem isAsciiDigit_iff : isAsciiDigit c = true ↔ 48 ≤ c.toNat ∧ c.toNat ≤ 57 := by
  simp only [isAsciiDigit, Bool.and_eq_true, decide_eq_true_eq, Char.le_def, UInt32.le_iff_toNat_le]
  exact Iff.rfl

theorem isAsciiLetter_iff : isAsciiLetter c = true ↔
    (65 ≤ c.toNat ∧ c.toNat ≤ 90) ∨ (97 ≤ c.toNat ∧ c.toNat ≤ 122) := by
  simp only [isAsciiLetter, Bool.or_eq_true, Bool.and_eq_true, decide_eq_true_eq, Char.le_def,
    UInt32.le_iff_toNat_le]
  exact Iff.rfl

theorem isBlank_of_visible (h : 33 ≤ c.toNat) (hascii : c.toNat < 128) : isBlank c = false := by
  simp only [isBlank, Bool.or_eq_false_iff, Bool.and_eq_false_iff, decide_eq_false_iff_not,
    beq_eq_false_iff_ne]
  omega

theorem isBlank_of_isAsciiDigit (h : isAsciiDigit c = true) : isBlank c = false := by
  rw [isAsciiDigit_iff] at h
  exact isBlank_of_visible (by omega) (by omega)

theorem isBlank_of_isAsciiLetter (h : isAsciiLetter c = true) : isBlank c = false := by
  rw [isAsciiLetter_iff] at h
  exact isBlank_of_visible (by omega) (by omega)

theorem isDigit_of_isAsciiLetter (h : isAsciiLetter c = true) : isDigit c = false := by
  have hdigit : ¬ ('0' ≤ c ∧ c ≤ '9') := by
    intro hdigit
    have h' := isAsciiDigit_iff.mp (show isAsciiDigit c = true by simpa [isAsciiDigit] using hdigit)
    rw [isAsciiLetter_iff] at h
    omega
  rw [isAsciiLetter_iff] at h
  rw [isDigit, digitValue?, if_neg hdigit, if_pos (by omega)]
  rfl

/-! ### Capitals -/

theorem capitals_of_isAsciiLetter (h : isAsciiLetter c = true) : capitals c = [c.toUpper] := by
  rw [isAsciiLetter_iff] at h
  unfold capitals
  exact if_pos (by omega)

/-- Only a letter has a capital from A to Z. -/
theorem isAsciiLetter_of_toUpper (h : 65 ≤ c.toUpper.toNat ∧ c.toUpper.toNat ≤ 90) :
    isAsciiLetter c = true := by
  rw [isAsciiLetter_iff]
  by_cases hlower : c.val ≥ 'a'.val ∧ c.val ≤ 'z'.val
  · exact .inr hlower
  · have hsame : c.toUpper = c := dif_neg hlower
    exact .inl (hsame ▸ h)

/-! ### Numerals -/

theorem numeralValue_eq {ds : List Char} (hds : ∀ c ∈ ds, isAsciiDigit c = true) :
    numeralValue ds = Nat.ofDigitChars 10 ds 0 := by
  rw [numeralValue, Nat.ofDigitChars_eq_foldl]
  refine List.foldl_ext _ _ 0 fun n c hc => ?_
  have hdigit := hds c hc
  simp only [isAsciiDigit, Bool.and_eq_true, decide_eq_true_eq] at hdigit
  rw [digitValue?, if_pos hdigit, Option.getD_some]
  rfl

theorem isAsciiDigit_of_mem_zeros {zeros n : Nat} :
    ∀ c ∈ List.replicate zeros '0' ++ Nat.toDigits 10 n, isAsciiDigit c = true := by
  intro c hc
  rcases List.mem_append.mp hc with hc | hc
  · rw [(List.mem_replicate.mp hc).2]
    rfl
  · exact Nat.isDigit_of_mem_toDigits (by decide) (by decide) hc

theorem numeralValue_zeros (zeros n : Nat) :
    numeralValue (List.replicate zeros '0' ++ Nat.toDigits 10 n) = n := by
  rw [numeralValue_eq isAsciiDigit_of_mem_zeros, Nat.ofDigitChars_append,
    Nat.ofDigitChars_replicate_zero, Nat.mul_zero, Nat.ofDigitChars_ten_toDigits]

end Sheetflow.Text
