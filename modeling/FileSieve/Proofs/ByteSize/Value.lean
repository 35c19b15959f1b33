import FileSieve.Proofs.ByteSize.Precision
import Mathlib.Algebra.Order.Floor.Semifield
import Mathlib.Data.Rat.Floor
import Mathlib.Tactic.Linarith
import Mathlib.Tactic.Positivity
import Mathlib.Tactic.Ring

/-!
# The values of sizes

A size is an exact rational number of bytes before it is rounded. Rounding keeps a number of at most
28 significant digits.

* `Significand.floor_eq`: whole bytes are those of the value, rounded down.
* `Significand.value_rounded_of_isExact`: digits that are exact are kept.
* `Significand.value_rounded_lt`: rounding does not leave the highest power of ten.
* `exists_product_of_lt`, `product_of_isShort`: what is worked out, and how much it is.
-/

namespace FileSieve.ByteSize

open Significand

namespace Significand

variable {x : Significand}

/-- The number that is meant. -/
def value (x : Significand) : ℚ := x.digits * 10 ^ x.exponent

/-- Whole bytes are those of the value, rounded down. -/
theorem floor_eq (x : Significand) : x.floor = ⌊x.value⌋₊ := by
  obtain ⟨digits, exponent⟩ := x
  simp only [floor, value, Nat.pow_eq]
  rcases Int.eq_nat_or_neg exponent with ⟨k, rfl | rfl⟩
  · rw [Int.toNat_natCast, show (-(k : Int)).toNat = 0 by omega, pow_zero, Nat.div_one,
      zpow_natCast]
    exact_mod_cast (Nat.floor_natCast (R := ℚ) _).symm
  · rw [show (-(k : Int)).toNat = 0 by omega, pow_zero, Nat.mul_one, neg_neg, Int.toNat_natCast,
      zpow_neg, zpow_natCast, ← div_eq_mul_inv]
    exact_mod_cast (Nat.floor_div_eq_div (K := ℚ) digits (10 ^ k)).symm

theorem value_nonneg (x : Significand) : 0 ≤ x.value :=
  mul_nonneg (Nat.cast_nonneg _) (zpow_nonneg (by norm_num) _)

theorem rounded_of_long (h : precision < x.length) : x.rounded =
    ⟨roundedQuotient x.digits (10 ^ (x.length - precision)),
      x.exponent + (x.length - precision : Nat)⟩ := by
  have hextra : x.length - precision ≠ 0 := by omega
  simp only [rounded, hextra, if_false]
  rfl

/-- A power of ten that is moved from the digits to the exponent. -/
theorem value_mul_pow (digits k : Nat) (exponent : Int) :
    value ⟨digits * 10 ^ k, exponent⟩ = value ⟨digits, exponent + k⟩ := by
  simp only [value]
  rw [zpow_add₀ (by norm_num), zpow_natCast]
  push_cast
  ring

/-- **An exact number of digits is kept.** -/
theorem value_rounded_of_isExact (h : IsExact x.digits) : x.rounded.value = x.value := by
  by_cases hshort : x.length ≤ precision
  · rw [rounded_of_short hshort]
  · obtain ⟨q, hq⟩ := h.pow_dvd (Nat.lt_of_not_le hshort)
    have hdigits : x.digits = q * 10 ^ (x.length - precision) := hq.trans (Nat.mul_comm _ _)
    rw [rounded_of_long (Nat.lt_of_not_le hshort), hdigits, roundedQuotient_mul (by positivity),
      ← value_mul_pow, ← hdigits]

end Significand

/-! ### Short values -/

variable {v : ℚ}

/-- The value has at most 28 significant digits. -/
def IsShort (v : ℚ) : Prop :=
  ∃ digits : ℕ, ∃ exponent : ℤ, digits < 10 ^ precision ∧ v = digits * 10 ^ exponent

theorem isExact_of_isShort {x : Significand} (h : IsShort x.value) : IsExact x.digits := by
  obtain ⟨digits, exponent, hdigits, hvalue⟩ := h
  have hten : (10 : ℚ) ^ x.exponent ≠ 0 := zpow_ne_zero _ (by norm_num)
  have heq : (x.digits : ℚ) = digits * 10 ^ (exponent - x.exponent) := by
    rw [zpow_sub₀ (by norm_num), ← mul_div_assoc, ← hvalue, value, mul_div_cancel_right₀ _ hten]
  rcases Int.eq_nat_or_neg (exponent - x.exponent) with ⟨k, hk | hk⟩
  · rw [hk, zpow_natCast] at heq
    exact ⟨digits, k, by exact_mod_cast heq, hdigits.le⟩
  · -- there are fewer digits than that
    rw [hk, zpow_neg, zpow_natCast, ← div_eq_mul_inv, eq_div_iff (by positivity)] at heq
    have hle : x.digits ≤ digits := by
      have heq' : x.digits * 10 ^ k = digits := by exact_mod_cast heq
      exact heq' ▸ Nat.le_mul_of_pos_right _ (by positivity)
    exact ⟨x.digits, 0, (Nat.mul_one _).symm, (hle.trans_lt hdigits).le⟩

/-! ### Sizes that are worked out -/

/-- Half of the last digit that is kept below the power of ten after the highest one. -/
def valueBound : ℚ := (10 ^ precision - 1 / 2) * 10 ^ (highestPower + 1 - precision)

theorem pow_highestPower_eq : (10 : ℚ) ^ (highestPower + 1) =
    10 ^ precision * 10 ^ (highestPower + 1 - precision) := by
  rw [← zpow_natCast, ← zpow_add₀ (by norm_num), add_sub_cancel]

theorem valueBound_lt : valueBound < 10 ^ (highestPower + 1) := by
  rw [pow_highestPower_eq, valueBound]
  exact mul_lt_mul_of_pos_right (by norm_num) (zpow_pos (by norm_num) _)

/-- Values of up to 27 digits before the point are far below the bound. -/
theorem lt_valueBound (h : v ≤ 10 ^ (precision - 1)) : v < valueBound := by
  have hpower : (1 : ℚ) ≤ 10 ^ (highestPower + 1 - precision) :=
    one_le_zpow₀ (by norm_num) (by decide)
  calc v ≤ 10 ^ (precision - 1) := h
    _ < (10 ^ precision - 1 / 2) * 1 := by norm_num [precision]
    _ ≤ valueBound := mul_le_mul_of_nonneg_left hpower (by norm_num [precision])

/-- What is rounded from below the bound, in units of the last digit that is kept. -/
theorem mul_zpow_lt_of_near {d : ℚ} {q : ℕ} {e : ℤ} (hlow : 10 ^ (precision - 1) ≤ d)
    (hnear : q ≤ d + 1 / 2) (hq : q ≤ 10 ^ precision) (h : d * 10 ^ e < valueBound) :
    q * 10 ^ e < (10 : ℚ) ^ (highestPower + 1) := by
  have hq' : (q : ℚ) ≤ 10 ^ precision := by exact_mod_cast hq
  rw [pow_highestPower_eq]
  rw [valueBound] at h
  generalize highestPower + 1 - precision = bottom at h ⊢
  have hpos : (0 : ℚ) < 10 ^ bottom := zpow_pos (by norm_num) _
  rcases lt_trichotomy e bottom with hlt | rfl | hgt
  · calc (q : ℚ) * 10 ^ e ≤ 10 ^ precision * 10 ^ e :=
          mul_le_mul_of_nonneg_right hq' (zpow_nonneg (by norm_num) _)
      _ < 10 ^ precision * 10 ^ bottom :=
          mul_lt_mul_of_pos_left (zpow_lt_zpow_right₀ (by norm_num) hlt) (by positivity)
  · -- the last digit stands for its lowest power: here the bound decides
    have hd : d < 10 ^ precision - 1 / 2 := lt_of_mul_lt_mul_right h hpos.le
    exact mul_lt_mul_of_pos_right (by linarith) hpos
  · -- the first digit already stands for too high a power
    refine absurd h (not_lt.2 ?_)
    have hd : 0 ≤ d := (by positivity : (0 : ℚ) ≤ 10 ^ (precision - 1)).trans hlow
    calc (10 ^ precision - 1 / 2) * (10 : ℚ) ^ bottom
        ≤ 10 ^ precision * 10 ^ bottom := mul_le_mul_of_nonneg_right (by norm_num) hpos.le
      _ = 10 ^ (precision - 1) * 10 ^ (bottom + 1) := by
          rw [zpow_add₀ (by norm_num), zpow_one, mul_comm _ (10 : ℚ), ← mul_assoc, ← pow_succ]
          rfl
      _ ≤ d * 10 ^ e := mul_le_mul hlow (zpow_le_zpow_right₀ (by norm_num) hgt)
          (zpow_nonneg (by norm_num) _) hd

/-- A value in units of the last digit that is kept. -/
theorem Significand.value_eq_div (x : Significand) (extra : ℕ) :
    x.value = x.digits / 10 ^ extra * 10 ^ (x.exponent + extra) := by
  rw [value, zpow_add₀ (by norm_num), zpow_natCast]
  field_simp

/-- **Values below the bound are not rounded beyond the highest power of ten.** -/
theorem Significand.value_rounded_lt {x : Significand} (h : x.value < valueBound) :
    x.rounded.value < 10 ^ (highestPower + 1) := by
  by_cases hshort : x.length ≤ precision
  · rw [rounded_of_short hshort]
    exact h.trans valueBound_lt
  have hlong : precision < x.length := Nat.lt_of_not_le hshort
  have hq : x.rounded.digits ≤ 10 ^ precision := digits_rounded_le x
  rw [rounded_of_long hlong] at hq ⊢
  generalize hextra : x.length - precision = extra at hq ⊢
  have hlow : 10 ^ (x.length - 1) ≤ x.digits := pow_length_le <| by
    simp only [precision, length] at hlong
    omega
  have hnear := roundedQuotient_le (a := x.digits) (b := 10 ^ extra) (by positivity)
  rw [x.value_eq_div extra] at h
  have hten : (0 : ℚ) < 10 ^ extra := by positivity
  refine mul_zpow_lt_of_near ?_ ?_ hq h
  · rw [le_div_iff₀ hten, ← pow_add]
    have hlength : precision - 1 + extra = x.length - 1 := by
      simp only [precision] at *
      omega
    rw [hlength]
    exact_mod_cast hlow
  · have hnear' : 2 * (10 ^ extra * (roundedQuotient x.digits (10 ^ extra) : ℚ)) ≤
        2 * x.digits + 10 ^ extra := by exact_mod_cast hnear
    rw [← sub_le_iff_le_add, le_div_iff₀ hten]
    linarith

variable {amount : Significand} {factor : Nat}

theorem value_mul : value ⟨amount.digits * factor, amount.exponent⟩ = amount.value * factor := by
  simp only [value]
  push_cast
  ring

/-- A size is not worked out when it is rounded beyond the highest power of ten. -/
theorem product_eq_error_iff_value {fault : TooLarge} : product amount factor = .error fault ↔
    10 ^ (highestPower + 1) ≤ (rounded ⟨amount.digits * factor, amount.exponent⟩).value := by
  have hpower : (10 : ℚ) ^ (highestPower + 1) = (Nat.pow 10 (highestPower.toNat + 1) : ℕ) := by
    rw [Nat.pow_eq, Nat.cast_pow, ← zpow_natCast]
    rfl
  rw [product_eq_error_iff, floor_eq, Nat.le_floor_iff (value_nonneg _), hpower]

/-- **Sizes below the bound are worked out.** -/
theorem exists_product_of_lt (h : amount.value * factor < valueBound) :
    ∃ n, product amount factor = .ok n := by
  cases hproduct : product amount factor with
  | ok n => exact ⟨n, rfl⟩
  | error fault =>
    rw [← value_mul] at h
    exact absurd (value_rounded_lt h) (not_lt.2 (product_eq_error_iff_value.1 hproduct))

/-- **A size of at most 28 digits is its value, rounded down.** -/
theorem product_of_isShort (h : amount.value * factor < valueBound)
    (hshort : IsShort (amount.value * factor)) :
    product amount factor = .ok ⌊amount.value * factor⌋₊ := by
  obtain ⟨n, hn⟩ := exists_product_of_lt h
  rw [← value_mul] at hshort ⊢
  rw [hn, ← product_eq_ok hn, floor_eq, value_rounded_of_isExact (isExact_of_isShort hshort)]

end FileSieve.ByteSize
