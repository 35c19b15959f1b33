/-!
# Rounding a quotient

The quotient of two numbers is rounded to the nearest whole number; a half goes to the even
neighbour.

* `roundedQuotient_mul`: a whole quotient is kept.
* `roundedQuotient_mul_mul`: a common factor changes nothing.
* `two_mul_le_roundedQuotient`, `roundedQuotient_le`: the error is at most a half.
* `roundedQuotient_mono`: a larger dividend is not rounded to a smaller number.
-/

namespace FileSieve

/-- The whole number nearest to `a / b`, the even one of two. -/
def roundedQuotient (a b : Nat) : Nat :=
  let q := a / b
  let twice := 2 * (a % b)
  if twice < b ∨ (twice = b ∧ q % 2 = 0) then q else q + 1

variable {a b : Nat}

theorem roundedQuotient_mul (hb : 0 < b) (q : Nat) : roundedQuotient (q * b) b = q := by
  simp [roundedQuotient, Nat.mul_div_cancel _ hb, hb]

/-- A factor that both numbers have does not change the quotient. -/
theorem roundedQuotient_mul_mul {c : Nat} (hc : 0 < c) (a b : Nat) :
    roundedQuotient (a * c) (b * c) = roundedQuotient a b := by
  have hmod : 2 * (a % b * c) < b * c ↔ 2 * (a % b) < b := by
    rw [← Nat.mul_assoc, Nat.mul_lt_mul_right hc]
  have heq : 2 * (a % b * c) = b * c ↔ 2 * (a % b) = b := by
    rw [← Nat.mul_assoc, Nat.mul_left_inj (Nat.ne_of_gt hc)]
  simp only [roundedQuotient, Nat.mul_div_mul_right _ _ hc, Nat.mul_mod_mul_right, hmod, heq]

theorem two_mul_le_roundedQuotient (hb : 0 < b) :
    2 * a ≤ 2 * (b * roundedQuotient a b) + b := by
  have hdiv := Nat.div_add_mod a b
  have hmod := Nat.mod_lt a hb
  unfold roundedQuotient
  simp only
  split
  · omega
  · rw [Nat.mul_add]; omega

theorem roundedQuotient_le (hb : 0 < b) :
    2 * (b * roundedQuotient a b) ≤ 2 * a + b := by
  have hdiv := Nat.div_add_mod a b
  have hmod := Nat.mod_lt a hb
  unfold roundedQuotient
  simp only
  split
  · omega
  · rw [Nat.mul_add]; omega

theorem roundedQuotient_mono {c : Nat} (h : a ≤ c) :
    roundedQuotient a b ≤ roundedQuotient c b := by
  rcases Nat.eq_zero_or_pos b with rfl | hb
  · simp only [roundedQuotient, Nat.div_zero, Nat.mod_zero, Nat.not_lt_zero, false_or,
      Nat.zero_mod, and_true]
    split <;> split <;> omega
  · have hq : a / b ≤ c / b := Nat.div_le_div_right h
    have ha := Nat.div_add_mod a b
    have hc := Nat.div_add_mod c b
    rcases Nat.lt_or_eq_of_le hq with hlt | heq
    · unfold roundedQuotient
      simp only
      split <;> split <;> omega
    · unfold roundedQuotient
      simp only [heq] at ha ⊢
      have hm : a % b ≤ c % b := by omega
      split <;> split <;> omega

end FileSieve
