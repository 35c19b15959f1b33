import FileSieve.Proofs.Number.Whole

/-!
# Whole numbers that are too large

The largest finite floating point number is `2 ^ 1024 - 2 ^ 971`. The half of the next step is
rounded to the even side, which is no number any more, so that a whole number overflows from
`2 ^ 1024 - 2 ^ 970` on.

* `gridExponent_of_large`: the grid around a whole number from `2 ^ 52` on.
* `limit_le_nearestMagnitude_iff`: rounding leaves the numbers from the bound on.
* `ofInt?_eq_none_iff`: the whole numbers that are no floating point numbers.
-/

namespace FileSieve.Binary64

/-- The least whole number that is rounded to infinity. -/
def overflowBound : Nat := 2 ^ 1024 - 2 ^ 970

variable {n : Nat}

theorem floorLog_one (hn : n ≠ 0) : floorLog n 1 = n.log2 := by
  have hlow : 2 ^ n.log2 ≤ n := Nat.log2_self_le hn
  have hone : Nat.log2 1 = 0 := by decide
  unfold floorLog
  simp [hlow, hone]

theorem gridExponent_of_large (hn : 2 ^ 52 ≤ n) : gridExponent n 1 = (n.log2 - 52 : Nat) := by
  have hlog : 52 ≤ n.log2 := (Nat.le_log2 (by omega)).2 hn
  rw [gridExponent, floorLog_one (by omega)]
  omega

/-- A whole number is rounded to a number of steps of its grid. -/
theorem nearestMagnitude_of_large (hn : 2 ^ 52 ≤ n) :
    nearestMagnitude n 1 =
      (roundedQuotient n (2 ^ (n.log2 - 52)) * 2 ^ (n.log2 - 52) : Nat) := by
  have hneg : (-((n.log2 - 52 : Nat) : Int)).toNat = 0 := by omega
  simp only [nearestMagnitude, gridSteps, gridExponent_of_large hn, scaled, hneg,
    Int.toNat_natCast, Nat.pow_eq, Nat.pow_zero, Nat.mul_one, Nat.one_mul, Rat.mkRat_eq_div]
  push_cast
  simp

theorem limit_eq : limit = ((2 ^ 1024 : Nat) : Rat) := by
  decide +kernel

/-- The multiple of a step that is nearest is between powers of two that are multiples as well. -/
theorem roundedQuotient_two_pow (k m : Nat) :
    roundedQuotient (2 ^ k * 2 ^ m) (2 ^ m) = 2 ^ k :=
  roundedQuotient_mul (Nat.two_pow_pos m) _

theorem lt_limit_of_lt_bound (hn : 2 ^ 52 ≤ n) (h : n < overflowBound) :
    roundedQuotient n (2 ^ (n.log2 - 52)) * 2 ^ (n.log2 - 52) < 2 ^ 1024 := by
  have hlog : n.log2 < 1024 := (Nat.log2_lt (by omega)).2 (h.trans (by decide +kernel))
  have hlow : 52 ≤ n.log2 := (Nat.le_log2 (by omega)).2 hn
  by_cases hlast : n.log2 = 1023
  · -- below the bound, the number of steps is one less than that of the limit
    have hsteps : roundedQuotient n (2 ^ 971) ≤ 2 ^ 53 - 1 := by
      refine (roundedQuotient_mono (Nat.le_pred_of_lt h)).trans (Nat.le_of_eq ?_)
      decide +kernel
    calc roundedQuotient n (2 ^ (n.log2 - 52)) * 2 ^ (n.log2 - 52)
        = roundedQuotient n (2 ^ 971) * 2 ^ 971 := by rw [hlast]
      _ ≤ (2 ^ 53 - 1) * 2 ^ 971 := Nat.mul_le_mul_right _ hsteps
      _ < 2 ^ 1024 := by decide +kernel
  · have hhigh : n ≤ 2 ^ 53 * 2 ^ (n.log2 - 52) := by
      rw [← Nat.pow_add, show 53 + (n.log2 - 52) = n.log2 + 1 by omega]
      exact Nat.le_of_lt Nat.lt_log2_self
    have hsteps := roundedQuotient_mono (b := 2 ^ (n.log2 - 52)) hhigh
    rw [roundedQuotient_two_pow] at hsteps
    calc roundedQuotient n (2 ^ (n.log2 - 52)) * 2 ^ (n.log2 - 52)
        ≤ 2 ^ 53 * 2 ^ (n.log2 - 52) := Nat.mul_le_mul_right _ hsteps
      _ = 2 ^ (n.log2 + 1) := by rw [← Nat.pow_add]; congr 1; omega
      _ < 2 ^ 1024 := pow_lt_pow_right₀ (by decide) (by omega)

theorem limit_le_of_bound_le (h : overflowBound ≤ n) :
    2 ^ 1024 ≤ roundedQuotient n (2 ^ (n.log2 - 52)) * 2 ^ (n.log2 - 52) := by
  have hpos : n ≠ 0 := by
    rintro rfl
    exact absurd h (by decide +kernel)
  have hlow : 1023 ≤ n.log2 :=
    (Nat.le_log2 hpos).2 (Nat.le_trans (by decide +kernel) h)
  by_cases hlast : n.log2 = 1023
  · have hsteps : 2 ^ 53 ≤ roundedQuotient n (2 ^ 971) := by
      refine (Nat.le_of_eq ?_).trans (roundedQuotient_mono h)
      decide +kernel
    calc 2 ^ 1024 = 2 ^ 53 * 2 ^ 971 := by decide +kernel
      _ ≤ roundedQuotient n (2 ^ 971) * 2 ^ 971 := Nat.mul_le_mul_right _ hsteps
      _ = roundedQuotient n (2 ^ (n.log2 - 52)) * 2 ^ (n.log2 - 52) := by rw [hlast]
  · have hself : 2 ^ 52 * 2 ^ (n.log2 - 52) ≤ n := by
      rw [← Nat.pow_add, show 52 + (n.log2 - 52) = n.log2 by omega]
      exact Nat.log2_self_le hpos
    have hsteps := roundedQuotient_mono (b := 2 ^ (n.log2 - 52)) hself
    rw [roundedQuotient_two_pow] at hsteps
    calc 2 ^ 1024 ≤ 2 ^ n.log2 := pow_le_pow_right₀ (by decide) (by omega)
      _ = 2 ^ 52 * 2 ^ (n.log2 - 52) := by rw [← Nat.pow_add]; congr 1; omega
      _ ≤ roundedQuotient n (2 ^ (n.log2 - 52)) * 2 ^ (n.log2 - 52) :=
        Nat.mul_le_mul_right _ hsteps

/-- **Rounding leaves the finite numbers from the bound on.** -/
theorem limit_le_nearestMagnitude_iff : limit ≤ nearestMagnitude n 1 ↔ overflowBound ≤ n := by
  by_cases hn : 2 ^ 52 ≤ n
  · rw [nearestMagnitude_of_large hn, limit_eq, Nat.cast_le]
    constructor
    · intro h
      by_contra hlt
      exact absurd (lt_limit_of_lt_bound hn (Nat.not_le.1 hlt)) (Nat.not_lt.2 h)
    · exact limit_le_of_bound_le
  · have hbound : n < wholeBound := (Nat.not_le.1 hn).trans (by decide)
    have hself : nearestMagnitude n 1 ≤ n :=
      nearestMagnitude_le_natCast (by decide) (by omega) (by omega)
    refine iff_of_false (not_le.2 (lt_of_le_of_lt hself ?_)) ?_
    · rw [limit_eq, Nat.cast_lt]
      exact (Nat.not_le.1 hn).trans (by decide +kernel)
    · exact Nat.not_le.2 (hbound.trans (by decide +kernel))

theorem ofRat_natCast : ofRat (n : Int) =
    if limit ≤ nearestMagnitude n 1 then .infinite false else .finite (nearestMagnitude n 1) := by
  have hnonneg : ¬ ((n : Int) : Rat) < 0 := by
    exact_mod_cast Int.not_lt.2 (Int.natCast_nonneg n)
  have hnum : ((n : Int) : Rat).num.natAbs = n := by
    rw [Rat.num_intCast, Int.natAbs_natCast]
  rw [ofRat, hnum, Rat.den_intCast, if_neg hnonneg, decide_eq_false hnonneg]

/-- **The whole numbers that are no floating point numbers.** -/
theorem ofInt?_eq_none_iff : ofInt? n = none ↔ overflowBound ≤ n := by
  unfold ofInt?
  rw [ofRat_natCast]
  by_cases h : limit ≤ nearestMagnitude n 1
  · rw [if_pos h]
    exact iff_of_true rfl (limit_le_nearestMagnitude_iff.1 h)
  · rw [if_neg h]
    exact iff_of_false (Option.some_ne_none _) fun hle => h (limit_le_nearestMagnitude_iff.2 hle)

end FileSieve.Binary64
