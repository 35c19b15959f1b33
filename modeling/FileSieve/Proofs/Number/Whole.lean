import FileSieve.Number.Binary64
import Mathlib.Algebra.Order.Field.Rat
import Mathlib.Data.Rat.Lemmas
import Mathlib.Tactic.FieldSimp
import Mathlib.Tactic.Linarith
import Mathlib.Tactic.Positivity

/-!
# Whole numbers among floating point numbers

Below `2 ^ 53` the whole numbers are floating point numbers, so that rounding never crosses one.

* `gridExponent_nonpos`: below `2 ^ 53` the grid holds the whole numbers.
* `intCast_le_value_ofRat`, `value_ofRat_le_intCast`: rounding crosses no whole number.
* `ofRat_intCast`: a whole number is kept.
* `le_add_ofRat`: adding a part of a second to a whole number of seconds does not fall below it.
-/

namespace FileSieve.Binary64

/-- The bound below which all whole numbers are floating point numbers. -/
def wholeBound : Nat := 9007199254740992

variable {num den n : Nat} {x : Rat}

/-! ### The grid -/

theorem floorLog_lt {m : Nat} (h : num < den * 2 ^ m) : floorLog num den < m := by
  unfold floorLog
  simp only [Nat.pow_eq]
  split
  · rename_i hk
    by_contra hm
    have hpos : 0 ≤ (num.log2 : Int) - den.log2 := by omega
    have hneg : (-((num.log2 : Int) - den.log2)).toNat = 0 := by omega
    rw [hneg, Nat.pow_zero, Nat.mul_one] at hk
    have hpow : 2 ^ m ≤ 2 ^ ((num.log2 : Int) - den.log2).toNat :=
      Nat.pow_le_pow_right (by decide) (by omega)
    have := Nat.mul_le_mul_left den hpow
    omega
  · -- the logarithm of the denominator is rounded down, which costs one power of two
    have hlog : num.log2 < m + den.log2 + 1 := by
      rcases Nat.eq_zero_or_pos num with rfl | hnum
      · simp
      · rw [Nat.log2_lt (by omega)]
        calc num < den * 2 ^ m := h
          _ < 2 ^ (den.log2 + 1) * 2 ^ m :=
            Nat.mul_lt_mul_of_pos_right Nat.lt_log2_self (by positivity)
          _ = 2 ^ (m + den.log2 + 1) := by rw [← Nat.pow_add]; congr 1; omega
    omega

theorem gridExponent_nonpos (h : num < den * wholeBound) : gridExponent num den ≤ 0 := by
  have := floorLog_lt (m := 53) h
  unfold gridExponent
  omega

/-- Below the bound, the nearest magnitude is a multiple of a negative power of two. -/
theorem exists_nearestMagnitude (h : num < den * wholeBound) :
    ∃ k, nearestMagnitude num den = (roundedQuotient (num * 2 ^ k) den : Rat) / 2 ^ k := by
  have he := gridExponent_nonpos h
  refine ⟨(-gridExponent num den).toNat, ?_⟩
  have hzero : (gridExponent num den).toNat = 0 := by omega
  simp only [nearestMagnitude, gridSteps, scaled, hzero, Nat.pow_eq, Nat.pow_zero, Nat.mul_one,
    Nat.cast_one, Int.mul_one, Rat.mkRat_eq_div]
  push_cast
  rfl

theorem natCast_le_nearestMagnitude (hden : 0 < den) (h : num < den * wholeBound)
    (hn : n * den ≤ num) : (n : Rat) ≤ nearestMagnitude num den := by
  obtain ⟨k, hk⟩ := exists_nearestMagnitude h
  -- the whole number lies on the grid
  have hstep : n * 2 ^ k ≤ roundedQuotient (num * 2 ^ k) den := by
    rw [← roundedQuotient_mul hden (n * 2 ^ k)]
    refine roundedQuotient_mono ?_
    calc n * 2 ^ k * den = n * den * 2 ^ k := by rw [Nat.mul_right_comm]
      _ ≤ num * 2 ^ k := Nat.mul_le_mul_right _ hn
  rw [hk, le_div_iff₀ (by positivity)]
  exact_mod_cast hstep

theorem nearestMagnitude_le_natCast (hden : 0 < den) (h : num < den * wholeBound)
    (hn : num ≤ n * den) : nearestMagnitude num den ≤ n := by
  obtain ⟨k, hk⟩ := exists_nearestMagnitude h
  have hstep : roundedQuotient (num * 2 ^ k) den ≤ n * 2 ^ k := by
    rw [← roundedQuotient_mul hden (n * 2 ^ k)]
    refine roundedQuotient_mono ?_
    calc num * 2 ^ k ≤ n * den * 2 ^ k := Nat.mul_le_mul_right _ hn
      _ = n * 2 ^ k * den := by rw [Nat.mul_right_comm]
  rw [hk, div_le_iff₀ (by positivity)]
  exact_mod_cast hstep

/-! ### Rounding -/

/-- The magnitude that a value is rounded to. -/
def roundedMagnitude (x : Rat) : Rat := nearestMagnitude x.num.natAbs x.den

theorem abs_eq_natAbs_div (x : Rat) : |x| = (x.num.natAbs : Rat) / x.den := by
  conv_lhs => rw [← Rat.num_div_den x]
  rw [abs_div, Nat.abs_cast, Nat.cast_natAbs, Int.cast_abs]

theorem natAbs_lt_of_abs_lt (h : |x| < wholeBound) : x.num.natAbs < x.den * wholeBound := by
  rw [abs_eq_natAbs_div, div_lt_iff₀ (by exact_mod_cast x.den_pos)] at h
  rw [Nat.mul_comm]
  exact_mod_cast h

theorem natCast_le_roundedMagnitude (hx : |x| < wholeBound) (h : (n : Rat) ≤ |x|) :
    (n : Rat) ≤ roundedMagnitude x := by
  rw [abs_eq_natAbs_div, le_div_iff₀ (by exact_mod_cast x.den_pos)] at h
  exact natCast_le_nearestMagnitude x.den_pos (natAbs_lt_of_abs_lt hx) (by exact_mod_cast h)

theorem roundedMagnitude_le_natCast (hx : |x| < wholeBound) (h : |x| ≤ n) :
    roundedMagnitude x ≤ n := by
  rw [abs_eq_natAbs_div, div_le_iff₀ (by exact_mod_cast x.den_pos)] at h
  exact nearestMagnitude_le_natCast x.den_pos (natAbs_lt_of_abs_lt hx) (by exact_mod_cast h)

theorem roundedMagnitude_nonneg (hx : |x| < wholeBound) : 0 ≤ roundedMagnitude x := by
  exact_mod_cast natCast_le_roundedMagnitude (n := 0) hx (by simp)

theorem roundedMagnitude_lt_limit (hx : |x| < wholeBound) : roundedMagnitude x < limit :=
  lt_of_le_of_lt (roundedMagnitude_le_natCast hx hx.le) (by decide +kernel)

theorem ofRat_of_nonneg (hx : |x| < wholeBound) (h : 0 ≤ x) :
    ofRat x = .finite (roundedMagnitude x) := by
  have hlimit := roundedMagnitude_lt_limit hx
  unfold roundedMagnitude at hlimit ⊢
  simp only [ofRat, if_neg hlimit.not_ge, if_neg h.not_gt]

theorem ofRat_of_neg (hx : |x| < wholeBound) (h : x < 0) :
    ofRat x = if roundedMagnitude x = 0 then .negativeZero else .finite (-roundedMagnitude x) := by
  have hlimit := roundedMagnitude_lt_limit hx
  unfold roundedMagnitude at hlimit ⊢
  simp only [ofRat, if_neg hlimit.not_ge, if_pos h]

/-! ### Finite numbers -/

/-- The number is not infinite, and it is a number. -/
def IsFinite : Binary64 → Prop
  | .finite _ | .negativeZero => True
  | .infinite _ | .nan => False

theorem isFinite_finite {v : Rat} : (finite v).IsFinite := trivial

theorem le_iff_value_le {a b : Binary64} (ha : a.IsFinite) (hb : b.IsFinite) :
    a.le b = true ↔ a.value ≤ b.value := by
  cases a with
  | finite | negativeZero => cases b with
    | finite | negativeZero => simp [le]
    | infinite | nan => exact hb.elim
  | infinite | nan => exact ha.elim

theorem isFinite_ofRat (hx : |x| < wholeBound) : (ofRat x).IsFinite := by
  rcases lt_or_ge x 0 with h | h
  · rw [ofRat_of_neg hx h]
    split <;> trivial
  · rw [ofRat_of_nonneg hx h]
    trivial

theorem value_ofRat_of_nonneg (hx : |x| < wholeBound) (h : 0 ≤ x) :
    (ofRat x).value = roundedMagnitude x := by
  rw [ofRat_of_nonneg hx h]
  rfl

theorem value_ofRat_of_neg (hx : |x| < wholeBound) (h : x < 0) :
    (ofRat x).value = -roundedMagnitude x := by
  rw [ofRat_of_neg hx h]
  split
  · rename_i hzero
    rw [hzero, neg_zero]
    rfl
  · rfl

/-- A value is not rounded to below a whole number that it is not below. -/
theorem intCast_le_value_ofRat {m : Int} (hx : |x| < wholeBound) (h : (m : Rat) ≤ x) :
    (m : Rat) ≤ (ofRat x).value := by
  rcases lt_or_ge x 0 with hneg | hpos
  · have hm : m < 0 := by exact_mod_cast lt_of_le_of_lt h hneg
    obtain ⟨n, rfl⟩ : ∃ n : Nat, m = -n := ⟨m.natAbs, by omega⟩
    rw [value_ofRat_of_neg hx hneg]
    push_cast at h ⊢
    have := roundedMagnitude_le_natCast (n := n) hx (by rw [abs_of_neg hneg]; linarith)
    linarith
  · rw [value_ofRat_of_nonneg hx hpos]
    rcases le_or_gt m 0 with hm | hm
    · exact le_trans (by exact_mod_cast hm) (roundedMagnitude_nonneg hx)
    · obtain ⟨n, rfl⟩ := Int.eq_ofNat_of_zero_le hm.le
      rw [Int.cast_natCast] at h ⊢
      exact natCast_le_roundedMagnitude hx (by rw [abs_of_nonneg hpos]; exact h)

/-- A value is not rounded to above a whole number that it is not above. -/
theorem value_ofRat_le_intCast {m : Int} (hx : |x| < wholeBound) (h : x ≤ m) :
    (ofRat x).value ≤ m := by
  rcases lt_or_ge x 0 with hneg | hpos
  · rw [value_ofRat_of_neg hx hneg]
    rcases le_or_gt 0 m with hm | hm
    · have := roundedMagnitude_nonneg hx
      have : (0 : Rat) ≤ m := by exact_mod_cast hm
      linarith
    · obtain ⟨n, rfl⟩ : ∃ n : Nat, m = -n := ⟨m.natAbs, by omega⟩
      push_cast at h ⊢
      have := natCast_le_roundedMagnitude (n := n) hx (by rw [abs_of_neg hneg]; linarith)
      linarith
  · have hm : 0 ≤ m := by exact_mod_cast le_trans hpos h
    obtain ⟨n, rfl⟩ := Int.eq_ofNat_of_zero_le hm
    rw [value_ofRat_of_nonneg hx hpos, Int.cast_natCast]
    rw [Int.cast_natCast] at h
    exact roundedMagnitude_le_natCast hx (by rw [abs_of_nonneg hpos]; exact h)

/-- **A whole number below the bound is a floating point number.** -/
theorem ofRat_intCast {m : Int} (hm : |m| < wholeBound) : ofRat m = .finite m := by
  have hx : |(m : Rat)| < wholeBound := by exact_mod_cast hm
  have hvalue : (ofRat m).value = m :=
    le_antisymm (value_ofRat_le_intCast hx le_rfl) (intCast_le_value_ofRat hx le_rfl)
  rcases lt_or_ge (m : Rat) 0 with h | h
  · rw [value_ofRat_of_neg hx h] at hvalue
    rw [ofRat_of_neg hx h, hvalue, if_neg (by linarith)]
  · rw [value_ofRat_of_nonneg hx h] at hvalue
    rw [ofRat_of_nonneg hx h, hvalue]

/-! ### Sums -/

theorem add_ofRat_zero {m : Int} (hm : |m| < wholeBound) :
    (ofRat m).add (ofRat 0) = .finite m := by
  have hzero : ofRat 0 = .finite 0 := ofRat_intCast (m := 0) (by decide)
  rw [hzero, ofRat_intCast hm]
  change ofRat ((m : Rat) - 0) = _
  rw [sub_zero, ofRat_intCast hm]

/-- A sum of a whole number and a part of one does not fall below the whole number. -/
theorem le_add_ofRat {k m : Int} (hkm : k ≤ m) (hm : |m| + 1 < wholeBound) (hx0 : 0 ≤ x)
    (hx1 : x ≤ 1) : (finite k).le ((ofRat m).add (ofRat x)) = true := by
  have hm' : |m| < wholeBound := by omega
  have hx : |x| < wholeBound := by
    rw [abs_of_nonneg hx0]
    exact lt_of_le_of_lt hx1 (by norm_num [wholeBound])
  have hlow : 0 ≤ roundedMagnitude x := roundedMagnitude_nonneg hx
  have hhigh : roundedMagnitude x ≤ 1 := by
    exact_mod_cast roundedMagnitude_le_natCast (n := 1) hx (by rw [abs_of_nonneg hx0]; simpa)
  -- a sum is worked out as a difference, and zero has a negative of its own
  have hsum : (ofRat m).add (ofRat x) = ofRat (m + roundedMagnitude x) := by
    rw [ofRat_intCast hm', ofRat_of_nonneg hx hx0]
    by_cases h : roundedMagnitude x = 0
    · rw [h]
      change ofRat ((m : Rat) - 0) = _
      rw [sub_zero, add_zero]
    · simp only [add, neg, if_neg h]
      change ofRat ((m : Rat) - -roundedMagnitude x) = _
      rw [sub_neg_eq_add]
  have hbound : |(m : Rat) + roundedMagnitude x| < wholeBound := by
    have : |(m : Rat)| + 1 < wholeBound := by exact_mod_cast hm
    have := abs_add_le (m : Rat) (roundedMagnitude x)
    rw [abs_of_nonneg hlow] at this
    linarith
  rw [hsum, le_iff_value_le isFinite_finite (isFinite_ofRat hbound)]
  have : (k : Rat) ≤ m := by exact_mod_cast hkm
  exact intCast_le_value_ofRat hbound (by linarith)

end FileSieve.Binary64
