import FileSieve.ByteSize
import FileSieve.Proofs.Outcome
import FileSieve.Proofs.Text.Numeral
import Mathlib.Data.List.TakeWhile

/-!
# The precision of sizes

A size that was worked out has at most 28 significant digits before its zeros. Such a number is
not rounded a second time, so its plain numeral stands for the number itself.

* `isExact_of_product`: every size that is worked out is exact.
* `product_of_isExact`: a number that is exact is kept, without a unit.
* `bytes?_of_numeral`: the numeral of an exact number is read as the number.
* `product_eq_error_iff`: which sizes are not worked out.
-/

namespace FileSieve.ByteSize

open Text Significand

variable {n : Nat} {s : List Char} {amount : Significand} {factor : Nat}

/-- The number has at most 28 digits before its zeros. -/
def IsExact (n : Nat) : Prop :=
  ∃ digits power, n = digits * Nat.pow 10 power ∧ digits ≤ Nat.pow 10 precision

/-! ### Rounding -/

theorem digits_lt_of_short {x : Significand} (h : x.length ≤ precision) :
    x.digits < Nat.pow 10 precision :=
  (Nat.length_toDigits_le_iff (by decide) (by decide)).1 h

/-- What was rounded has at most 28 digits, or is the power of ten after them. -/
theorem digits_rounded_le (x : Significand) : x.rounded.digits ≤ Nat.pow 10 precision := by
  by_cases hshort : x.length ≤ precision
  · rw [rounded_of_short hshort]
    exact Nat.le_of_lt (digits_lt_of_short hshort)
  · have hextra : x.length - precision ≠ 0 := by omega
    have hpos : 0 < Nat.pow 10 (x.length - precision) := Nat.pow_pos (by decide)
    -- the digits end before the next power of ten, and a half is less than a whole
    have hbelow : x.digits < Nat.pow 10 (x.length - precision) * Nat.pow 10 precision := by
      refine Nat.lt_of_lt_of_eq ((Nat.length_toDigits_le_iff (by decide) (by omega)).1
        (Nat.le_refl x.length)) ?_
      rw [← show x.length - precision + precision = x.length by omega]
      exact Nat.pow_add 10 _ _
    have hround := roundedQuotient_le (a := x.digits) hpos
    have hlt : Nat.pow 10 (x.length - precision) *
        roundedQuotient x.digits (Nat.pow 10 (x.length - precision)) <
        Nat.pow 10 (x.length - precision) * (Nat.pow 10 precision + 1) := by
      rw [Nat.mul_add, Nat.mul_one]
      omega
    simp only [rounded, hextra, if_false]
    exact Nat.le_of_lt_succ (Nat.lt_of_mul_lt_mul_left hlt)

theorem product_eq_ok (h : product amount factor = .ok n) :
    (rounded ⟨amount.digits * factor, amount.exponent⟩).floor = n := by
  unfold product at h
  simp only at h
  split at h
  · cases h
  · exact Except.ok.inj h

/-- **Every size that is worked out is exact.** -/
theorem isExact_of_product (h : product amount factor = .ok n) : IsExact n := by
  rw [← product_eq_ok h]
  have hdigits := digits_rounded_le ⟨amount.digits * factor, amount.exponent⟩
  generalize rounded ⟨amount.digits * factor, amount.exponent⟩ = x at hdigits
  by_cases hwhole : 0 ≤ x.exponent
  · refine ⟨x.digits, x.exponent.toNat, ?_, hdigits⟩
    have hnone : (-x.exponent).toNat = 0 := by omega
    rw [floor, hnone]
    exact Nat.div_one _
  · -- what is left of a fraction has no more digits than the fraction
    refine ⟨x.floor, 0, (Nat.mul_one _).symm, Nat.le_trans ?_ hdigits⟩
    have hnone : x.exponent.toNat = 0 := by omega
    rw [floor, hnone]
    exact Nat.le_trans (Nat.div_le_self _ _) (Nat.le_of_eq (Nat.mul_one _))

/-! ### Exact numbers -/

/-- A number is not below the power of ten for its first digit. -/
theorem pow_length_le (h : 1 < (Nat.toDigits 10 n).length) :
    Nat.pow 10 ((Nat.toDigits 10 n).length - 1) ≤ n := by
  refine Nat.le_of_not_lt fun hlt => ?_
  have hshorter := length_toDigits_le (show 0 < (Nat.toDigits 10 n).length - 1 by omega) hlt
  omega

/-- The digits of an exact number after the 28th are zeros. -/
theorem IsExact.pow_dvd (h : IsExact n) (hlong : precision < (Nat.toDigits 10 n).length) :
    Nat.pow 10 ((Nat.toDigits 10 n).length - precision) ∣ n := by
  obtain ⟨digits, power, hn, hdigits⟩ := h
  have hlow : Nat.pow 10 ((Nat.toDigits 10 n).length - 1) ≤ n :=
    pow_length_le (by simp only [precision] at hlong; omega)
  by_cases hpower : (Nat.toDigits 10 n).length - precision ≤ power
  · exact Nat.dvd_trans (Nat.pow_dvd_pow 10 hpower) ⟨digits, hn.trans (Nat.mul_comm _ _)⟩
  · -- with fewer zeros than that, the number is the least one of its length
    have hhigh : n ≤ Nat.pow 10 ((Nat.toDigits 10 n).length - 1) := by
      calc n = digits * Nat.pow 10 power := hn
        _ ≤ Nat.pow 10 precision * Nat.pow 10 power := Nat.mul_le_mul_right _ hdigits
        _ = Nat.pow 10 (precision + power) := (Nat.pow_add 10 _ _).symm
        _ ≤ Nat.pow 10 ((Nat.toDigits 10 n).length - 1) :=
          Nat.pow_le_pow_right (by decide) (by omega)
    have hleast := Nat.le_antisymm hlow hhigh
    refine Nat.dvd_trans (Nat.pow_dvd_pow 10 ?_) ⟨1, hleast.symm.trans (Nat.mul_one _).symm⟩
    simp only [precision]
    omega

/-- Rounding an exact number keeps its value and moves at most all of its digits. -/
theorem IsExact.rounded_eq (h : IsExact n) :
    ∃ digits power, rounded ⟨n, 0⟩ = ⟨digits, (power : Nat)⟩ ∧ digits * Nat.pow 10 power = n ∧
      power ≤ (Nat.toDigits 10 n).length := by
  by_cases hshort : (Nat.toDigits 10 n).length ≤ precision
  · exact ⟨n, 0, rounded_of_short hshort, Nat.mul_one n, Nat.zero_le _⟩
  · obtain ⟨q, hq⟩ := h.pow_dvd (by omega)
    refine ⟨q, (Nat.toDigits 10 n).length - precision, ?_, ?_, Nat.sub_le _ _⟩
    · have hextra : (Nat.toDigits 10 n).length - precision ≠ 0 := by omega
      simp only [rounded, length, hextra, if_false, Int.zero_add, Significand.mk.injEq, and_true]
      have hkept := roundedQuotient_mul
        (show 0 < Nat.pow 10 ((Nat.toDigits 10 n).length - precision) from
          Nat.pow_pos (by decide)) q
      rwa [Nat.mul_comm, ← hq] at hkept
    · rw [Nat.mul_comm, ← hq]

/-- **A number that is exact is kept, without a unit.** -/
theorem product_of_isExact (h : IsExact n) (hn : n < Nat.pow 10 maxNumeralLength) :
    product ⟨n, 0⟩ 1 = .ok n := by
  obtain ⟨digits, power, hrounded, hvalue, hpower⟩ := h.rounded_eq
  have hlength : (Nat.toDigits 10 n).length ≤ maxNumeralLength :=
    length_toDigits_le (by decide) hn
  have hdigits : (Nat.toDigits 10 digits).length ≤ maxNumeralLength := by
    refine length_toDigits_le (by decide) (Nat.lt_of_le_of_lt ?_ hn)
    rw [← hvalue]
    exact Nat.le_mul_of_pos_right _ (Nat.pow_pos (by decide))
  unfold product
  simp only [Nat.mul_one, hrounded]
  rw [if_neg]
  · have hnone : (-(power : Int)).toNat = 0 := by omega
    simp only [floor, hnone, Int.toNat_natCast, hvalue]
    exact congrArg Except.ok (Nat.div_one n)
  · -- both the digits and the power are far below the highest power of ten
    rintro ⟨-, hhigh⟩
    simp only [length, highestPower, maxNumeralLength] at *
    omega

/-! ### Numerals -/

theorem not_isBlank_of_isDigit {c : Char} (h : c.isDigit = true) : isBlank c = false := by
  have hall : (tenDigits.all fun d => !isBlank d) = true := by decide
  have := List.all_eq_true.1 hall c (mem_tenDigits h)
  rwa [Bool.not_eq_true'] at this

theorem literal?_of_isNumeral (h : IsNumeral s) :
    literal? s = some (⟨digitsValue s, 0⟩, 1) := by
  have hblank : s.dropWhile isBlank = s := by
    obtain ⟨c, rest, rfl⟩ := List.exists_cons_of_ne_nil h.1
    rw [List.dropWhile_cons_of_neg]
    rw [not_isBlank_of_isDigit (h.2 c List.mem_cons_self)]
    decide
  have htake : s.takeWhile isDigit = s := List.takeWhile_eq_self_iff.2 h.isDigit
  have hdrop : s.dropWhile isDigit = [] := List.dropWhile_eq_nil_iff.2 h.isDigit
  have hamount : amount? s = some (⟨digitsValue s, 0⟩, []) := by
    unfold amount?
    simp only [htake, hdrop, List.isEmpty_iff, h.1, if_false]
  have hunit : unitFactor? (trimBlanks []) = some 1 := by decide
  unfold literal?
  rw [hblank, hamount]
  simp only [Option.bind_eq_bind, Option.bind_some, hunit]
  rfl

/-- **The numeral of an exact number is read as the number.** -/
theorem bytes?_of_numeral (hs : numeral? n = some s) (h : IsExact n) :
    bytes? s = .ok (some n) := by
  unfold bytes?
  rw [literal?_of_isNumeral (isNumeral_of_numeral? hs), digitsValue_of_numeral? hs]
  simp only [product_of_isExact h (numeral?_eq_some hs).1]
  rfl

/-! ### Sizes that are too large -/

/-- A number has at least the power of ten that its first digit stands for. -/
theorem Significand.pow_le_floor_iff {x : Significand} {p : Nat} :
    Nat.pow 10 p ≤ x.floor ↔ x.digits ≠ 0 ∧ (p : Int) < x.length + x.exponent := by
  have hpos (k : Nat) : 0 < Nat.pow 10 k := Nat.pow_pos (by decide)
  have hadd (j k : Nat) : Nat.pow 10 (j + k) = Nat.pow 10 j * Nat.pow 10 k := Nat.pow_add 10 j k
  have hlength : 0 < x.length := List.length_pos_iff.2 Nat.toDigits_ne_nil
  rw [floor, Nat.le_div_iff_mul_le (hpos _), ← hadd]
  by_cases hdigits : x.digits = 0
  · simp [hdigits]
  · by_cases hshort : p + (-x.exponent).toNat ≤ x.exponent.toNat
    · refine iff_of_true (Nat.le_trans (Nat.pow_le_pow_right (by decide) hshort) ?_) ?_
      · exact Nat.le_mul_of_pos_left _ (Nat.pos_of_ne_zero hdigits)
      · exact ⟨hdigits, by omega⟩
    · -- the powers of ten that are left are compared with the number of digits
      obtain ⟨k, hk⟩ := Nat.exists_eq_add_of_le' (Nat.le_of_not_le hshort)
      have hkpos : 0 < k := by omega
      have hdigits_iff : x.length ≤ k ↔ x.digits < Nat.pow 10 k :=
        Nat.length_toDigits_le_iff (by decide) hkpos
      rw [hk, hadd, Nat.mul_le_mul_right_iff (hpos _), ← Nat.not_lt, ← hdigits_iff]
      constructor
      · intro h
        exact ⟨hdigits, by omega⟩
      · rintro ⟨-, h⟩
        omega

/-- **A size is not worked out when it is at least the power of ten after the highest one.** -/
theorem product_eq_error_iff {fault : TooLarge} : product amount factor = .error fault ↔
    Nat.pow 10 (highestPower.toNat + 1) ≤
      (rounded ⟨amount.digits * factor, amount.exponent⟩).floor := by
  have hpower : ((highestPower.toNat + 1 : Nat) : Int) = highestPower + 1 := rfl
  rw [Significand.pow_le_floor_iff, hpower]
  unfold product
  simp only
  split
  · rename_i h
    exact iff_of_true rfl ⟨h.1, by omega⟩
  · rename_i h
    refine iff_of_false (by simp) fun hlarge => h ⟨hlarge.1, by omega⟩

/-- The text is a size literal, of a size that is not worked out. -/
def IsTooLarge (s : List Char) : Prop :=
  ∃ amount factor, literal? s = some (amount, factor) ∧
    Nat.pow 10 (highestPower.toNat + 1) ≤
      (rounded ⟨amount.digits * factor, amount.exponent⟩).floor

theorem bytes?_eq_error_iff {fault : TooLarge} : bytes? s = .error fault ↔ IsTooLarge s := by
  unfold bytes? IsTooLarge
  split
  · rename_i h
    simp [h]
  · rename_i amount factor h
    constructor
    · intro herror
      exact ⟨amount, factor, h, product_eq_error_iff.1 (map_eq_error_iff.1 herror)⟩
    · rintro ⟨a, f, ha, hlarge⟩
      cases h.symm.trans ha
      exact map_eq_error_iff.2 (product_eq_error_iff.2 hlarge)

theorem exists_bytes?_iff : (∃ size?, bytes? s = .ok size?) ↔ ¬ IsTooLarge s := by
  cases hsize : bytes? s with
  | ok size? =>
    refine iff_of_true ⟨size?, rfl⟩ fun hlarge => ?_
    have herror : bytes? s = .error ⟨⟩ := bytes?_eq_error_iff.2 hlarge
    cases hsize.symm.trans herror
  | error fault =>
    refine iff_of_false ?_ (not_not_intro (bytes?_eq_error_iff.1 hsize))
    rintro ⟨size?, h⟩
    cases h

end FileSieve.ByteSize
