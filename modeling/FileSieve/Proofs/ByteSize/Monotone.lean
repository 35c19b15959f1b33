import FileSieve.Proofs.ByteSize.Literal

/-!
# The order of sizes

Rounding to 28 significant digits depends on a value only, not on how it is written, and it keeps
the order of values, also across powers of ten. So do sizes: of two texts, the one that stands for
more bytes is not read as fewer.

* `Significand.value_rounded_mul_pow`: zeros behind the digits do not change what is rounded.
* `Significand.value_rounded_mono`: rounding keeps the order of values.
* `exists_product_iff`: the sizes that are worked out.
* `sizes_in_order`: sizes are in the order of what is written.
-/

namespace FileSieve.ByteSize

open Significand

namespace Significand

variable {x y : Significand} {k : Nat} {exponent : Int}

/-! ### Digits and zeros behind them -/

/-- A number has more than `k` digits when it is not below the power of ten. -/
theorem lt_length_iff (h : x.digits ≠ 0) : k < x.length ↔ 10 ^ k ≤ x.digits := by
  rcases Nat.eq_zero_or_pos k with rfl | hk
  · exact iff_of_true (List.length_pos_iff.2 Nat.toDigits_ne_nil) (Nat.pos_of_ne_zero h)
  · rw [← Nat.not_le, length, Nat.length_toDigits_le_iff (by decide) hk, Nat.not_lt]

theorem length_mul_pow (h : x.digits ≠ 0) (k : Nat) :
    length ⟨x.digits * 10 ^ k, exponent⟩ = x.length + k := by
  have hmul : x.digits * 10 ^ k ≠ 0 := Nat.mul_ne_zero h (by positivity)
  refine eq_of_forall_lt_iff fun j => ?_
  rw [lt_length_iff hmul]
  rcases Nat.lt_or_ge j k with hj | hj
  · refine iff_of_true ?_ (by omega)
    exact (Nat.pow_le_pow_right (by decide) hj.le).trans (Nat.le_mul_of_pos_left _ (by omega))
  · obtain ⟨i, rfl⟩ := Nat.exists_eq_add_of_le' hj
    rw [pow_add, Nat.mul_le_mul_right_iff (by positivity), ← lt_length_iff h]
    omega

/-- **Zeros behind the digits do not change what is rounded.** -/
theorem value_rounded_mul_pow (digits k : Nat) (exponent : Int) :
    (rounded ⟨digits * 10 ^ k, exponent⟩).value = (rounded ⟨digits, exponent + k⟩).value := by
  by_cases hshort : length ⟨digits, exponent + k⟩ ≤ precision
  · -- a number that is not rounded is exact, whatever zeros are behind it
    have hexact : IsExact (digits * 10 ^ k) := ⟨digits, k, rfl, (digits_lt_of_short hshort).le⟩
    rw [rounded_of_short hshort, value_rounded_of_isExact hexact, value_mul_pow]
  · have hlong := Nat.lt_of_not_le hshort
    have hdigits : digits ≠ 0 := by
      rintro rfl
      exact hshort (show length ⟨0, 0⟩ ≤ precision by decide)
    have hlength : length ⟨digits * 10 ^ k, exponent⟩ - precision =
        length ⟨digits, exponent + k⟩ - precision + k := by
      rw [length_mul_pow (x := ⟨digits, exponent + k⟩) hdigits]
      exact Nat.sub_add_comm hlong.le
    rw [rounded_of_long hlong, rounded_of_long (by omega), hlength, pow_add,
      roundedQuotient_mul_mul (by positivity)]
    congr 2
    push_cast
    ring

/-! ### Order -/

theorem value_mono {a b : Nat} (h : a ≤ b) : value ⟨a, exponent⟩ ≤ value ⟨b, exponent⟩ :=
  mul_le_mul_of_nonneg_right (by exact_mod_cast h) (zpow_nonneg (by norm_num) _)

/-- The power of ten that the last digit stands for, once the number is rounded. -/
theorem exponent_rounded (x : Significand) :
    x.rounded.exponent = x.exponent + (x.length - precision : Nat) := by
  by_cases hshort : x.length ≤ precision
  · rw [rounded_of_short hshort, Nat.sub_eq_zero_of_le hshort]
    exact (Int.add_zero _).symm
  · rw [rounded_of_long (Nat.lt_of_not_le hshort)]

/-- What is rounded has 28 digits again. -/
theorem pow_le_digits_rounded (h : precision < x.length) :
    10 ^ (precision - 1) ≤ x.rounded.digits := by
  have hfirst : 10 ^ (x.length - 1) ≤ x.digits := pow_length_le <| by
    simp only [precision, length] at h
    omega
  have hsplit : x.length - 1 = precision - 1 + (x.length - precision) := by
    simp only [precision] at *
    omega
  rw [rounded_of_long h]
  calc 10 ^ (precision - 1)
      = roundedQuotient (10 ^ (precision - 1) * 10 ^ (x.length - precision))
          (10 ^ (x.length - precision)) := (roundedQuotient_mul (by positivity) _).symm
    _ ≤ roundedQuotient x.digits (10 ^ (x.length - precision)) :=
        roundedQuotient_mono (by rwa [← pow_add, ← hsplit])

/-- Numbers with more digits are not rounded below those with fewer. -/
theorem value_rounded_le_of_length_lt (hexponent : x.exponent = y.exponent)
    (hlength : x.length < y.length) (hlong : precision < y.length) :
    x.rounded.value ≤ y.rounded.value := by
  -- between the two is a power of ten
  have hle : x.rounded.exponent + precision ≤ y.rounded.exponent + (precision - 1 : Nat) := by
    simp only [exponent_rounded, precision] at *
    omega
  calc x.rounded.value ≤ 10 ^ precision * 10 ^ x.rounded.exponent :=
        mul_le_mul_of_nonneg_right (by exact_mod_cast digits_rounded_le x)
          (zpow_nonneg (by norm_num) _)
    _ = 10 ^ (x.rounded.exponent + precision) := by
        rw [zpow_add₀ (by norm_num), zpow_natCast, mul_comm]
    _ ≤ 10 ^ (y.rounded.exponent + (precision - 1 : Nat)) :=
        zpow_le_zpow_right₀ (by norm_num) hle
    _ = 10 ^ (precision - 1) * 10 ^ y.rounded.exponent := by
        rw [zpow_add₀ (by norm_num), zpow_natCast, mul_comm]
    _ ≤ y.rounded.value :=
        mul_le_mul_of_nonneg_right (by exact_mod_cast pow_le_digits_rounded hlong)
          (zpow_nonneg (by norm_num) _)

theorem length_mono {a b : Nat} (h : a ≤ b) : length ⟨a, exponent⟩ ≤ length ⟨b, exponent⟩ := by
  rcases Nat.eq_zero_or_pos a with rfl | ha
  · have hzero : (Nat.toDigits 10 0).length = 1 := by decide
    exact hzero.trans_le (List.length_pos_iff.2 Nat.toDigits_ne_nil)
  · refine le_of_forall_lt fun k hk => ?_
    rw [lt_length_iff (x := ⟨a, exponent⟩) ha.ne'] at hk
    rw [lt_length_iff (x := ⟨b, exponent⟩) (ha.trans_le h).ne']
    exact hk.trans h

/-- Rounding keeps the order of numbers whose last digits stand for the same power of ten. -/
theorem value_rounded_mono_digits {a b : Nat} (h : a ≤ b) (exponent : Int) :
    (rounded ⟨a, exponent⟩).value ≤ (rounded ⟨b, exponent⟩).value := by
  have hlength : length ⟨a, exponent⟩ ≤ length ⟨b, exponent⟩ := length_mono h
  by_cases hshort : length ⟨b, exponent⟩ ≤ precision
  · rw [rounded_of_short hshort, rounded_of_short (hlength.trans hshort)]
    exact value_mono h
  · rcases hlength.lt_or_eq with hlt | heq
    · exact value_rounded_le_of_length_lt rfl hlt (Nat.lt_of_not_le hshort)
    · rw [rounded_of_long (Nat.lt_of_not_le hshort),
        rounded_of_long (heq ▸ Nat.lt_of_not_le hshort), heq]
      exact value_mono (roundedQuotient_mono h)

/-- **Rounding keeps the order of values.** -/
theorem value_rounded_mono (h : x.value ≤ y.value) : x.rounded.value ≤ y.rounded.value := by
  -- both are written down to the same power of ten
  obtain ⟨e, j, k, hj, hk⟩ : ∃ (e : Int) (j k : Nat), x.exponent = e + j ∧ y.exponent = e + k :=
    ⟨min x.exponent y.exponent, (x.exponent - min x.exponent y.exponent).toNat,
      (y.exponent - min x.exponent y.exponent).toNat, by omega, by omega⟩
  obtain ⟨a, _⟩ := x
  obtain ⟨b, _⟩ := y
  subst hj hk
  rw [← value_mul_pow, ← value_mul_pow] at h
  have hdigits : a * 10 ^ j ≤ b * 10 ^ k := by
    have hpos : (0 : ℚ) < 10 ^ e := zpow_pos (by norm_num) _
    exact_mod_cast le_of_mul_le_mul_right h hpos
  rw [← value_rounded_mul_pow, ← value_rounded_mul_pow]
  exact value_rounded_mono_digits hdigits e

end Significand

/-! ### Sizes that are worked out -/

variable {amount amount' : Significand} {factor factor' m n : Nat} {s : List Char} {v : ℚ}

/-- The lowest number that is rounded up to the power of ten after the highest one. -/
def lowestTooLarge : Significand := ⟨10 ^ (precision + 1) - 5, highestPower - precision⟩

theorem value_lowestTooLarge : lowestTooLarge.value = valueBound := by
  have hexponent : (10 : ℚ) ^ (highestPower + 1 - precision) =
      10 ^ (highestPower - precision) * 10 := by
    rw [add_sub_right_comm, zpow_add_one₀ (by norm_num)]
  rw [valueBound, hexponent]
  simp only [lowestTooLarge, value, precision]
  generalize (10 : ℚ) ^ (highestPower - (28 : Nat)) = bottom
  norm_num
  ring

theorem value_rounded_lowestTooLarge :
    lowestTooLarge.rounded.value = 10 ^ (highestPower + 1) := by
  have hrounded : lowestTooLarge.rounded = ⟨10 ^ precision, highestPower + 1 - precision⟩ := by
    decide +kernel
  rw [hrounded, pow_highestPower_eq, value]
  push_cast
  rfl

/-- **The sizes that are worked out are those below the bound.** -/
theorem exists_product_iff :
    (∃ n, product amount factor = .ok n) ↔ amount.value * factor < valueBound := by
  refine ⟨fun ⟨n, hn⟩ => ?_, exists_product_of_lt⟩
  by_contra hlarge
  rw [not_lt, ← value_mul, ← value_lowestTooLarge] at hlarge
  have hrounded := value_rounded_mono hlarge
  rw [value_rounded_lowestTooLarge] at hrounded
  have herror : product amount factor = .error ⟨⟩ := product_eq_error_iff_value.2 hrounded
  cases hn.symm.trans herror

/-- **A larger amount is not rounded to fewer bytes.** -/
theorem product_mono (hm : product amount factor = .ok m) (hn : product amount' factor' = .ok n)
    (h : amount.value * factor ≤ amount'.value * factor') : m ≤ n := by
  rw [← value_mul, ← value_mul] at h
  rw [← product_eq_ok hm, ← product_eq_ok hn, floor_eq, floor_eq]
  exact Nat.floor_mono (value_rounded_mono h)

/-! ### Sizes and what is written -/

/-- A size is worked out from what its text writes. -/
theorem bytes?_eq_some_iff : bytes? s = .ok (some n) ↔
    ∃ amount factor, literal? s = some (amount, factor) ∧ product amount factor = .ok n := by
  unfold bytes?
  cases literal? s with
  | none => simp
  | some entry =>
    obtain ⟨amount, factor⟩ := entry
    simp [map_eq_ok_iff]

/-- **The texts that are sizes are those that write a number of bytes below the bound.** -/
theorem exists_size_iff_writes : (∃ n, bytes? s = .ok (some n)) ↔ ∃ v < valueBound, Writes s v := by
  constructor
  · rintro ⟨n, hn⟩
    obtain ⟨amount, factor, hliteral, hproduct⟩ := bytes?_eq_some_iff.1 hn
    exact ⟨_, exists_product_iff.1 ⟨n, hproduct⟩, writes_of_literal? hliteral⟩
  · rintro ⟨v, hv, hwrites⟩
    obtain ⟨amount, factor, hliteral, rfl⟩ := literal?_of_writes hwrites
    obtain ⟨n, hn⟩ := exists_product_of_lt hv
    exact ⟨n, bytes?_eq_some_iff.2 ⟨amount, factor, hliteral, hn⟩⟩

/-- **Texts that write the same number of bytes are the same size.** -/
theorem bytes?_eq_of_writes {t : List Char} (h : bytes? s = .ok (some n)) (hs : Writes s v)
    (ht : Writes t v) : bytes? t = .ok (some n) := by
  obtain ⟨amount, factor, hliteral, hn⟩ := bytes?_eq_some_iff.1 h
  obtain rfl := (writes_of_literal? hliteral).unique hs
  obtain ⟨amount', factor', hliteral', hvalue⟩ := literal?_of_writes ht
  obtain ⟨m, hm⟩ := exists_product_iff.2 (hvalue ▸ exists_product_iff.1 ⟨n, hn⟩)
  have hsame : m = n :=
    le_antisymm (product_mono hm hn hvalue.le) (product_mono hn hm hvalue.ge)
  exact bytes?_eq_some_iff.2 ⟨amount', factor', hliteral', hsame ▸ hm⟩

/-- The one number of bytes that a size writes, and how much is worked out from it. -/
theorem writes_of_bytes? (h : bytes? s = .ok (some n)) : ∃ (amount : Significand) (factor : Nat),
    (∀ v, Writes s v ↔ v = amount.value * factor) ∧ product amount factor = .ok n := by
  obtain ⟨amount, factor, hliteral, hproduct⟩ := bytes?_eq_some_iff.1 h
  have hwrites := writes_of_literal? hliteral
  exact ⟨amount, factor, fun v => ⟨fun hv => hv.unique hwrites, fun hv => hv ▸ hwrites⟩, hproduct⟩

/-- **Sizes are in the order of what is written.** A text is a size if what it writes is below the
bound. Of two sizes, in whatever units and with however many digits, the one that writes more bytes
is not worked out to fewer, so that sizes which write as many bytes are the same; and one of at most
28 significant digits is the exact number of bytes, rounded down. -/
theorem sizes_in_order :
    (∀ s, (∃ n, bytes? s = .ok (some n)) ↔ ∃ v < valueBound, Writes s v) ∧
      ∀ a b m n, bytes? a = .ok (some m) → bytes? b = .ok (some n) →
        ∃ v w, (∀ u, Writes a u ↔ u = v) ∧ (∀ u, Writes b u ↔ u = w) ∧
          (v ≤ w → m ≤ n) ∧ (v = w → m = n) ∧ (IsShort v → m = ⌊v⌋₊) := by
  refine ⟨fun s => exists_size_iff_writes, fun a b m n ha hb => ?_⟩
  obtain ⟨amount, factor, hwrites, hm⟩ := writes_of_bytes? ha
  obtain ⟨amount', factor', hwrites', hn⟩ := writes_of_bytes? hb
  refine ⟨_, _, hwrites, hwrites', product_mono hm hn, fun heq => ?_, fun hshort => ?_⟩
  · exact le_antisymm (product_mono hm hn heq.le) (product_mono hn hm heq.ge)
  · have hexact := product_of_isShort (exists_product_iff.1 ⟨m, hm⟩) hshort
    exact Except.ok.inj (hm.symm.trans hexact)

/-- A hair below 1000 bytes, in 29 digits, is rounded up, and not beyond what 1024 bytes are. -/
theorem sizes_in_order_across_units :
    let a := "0.99999999999999999999999999999KB".toList
    let b := "1KiB".toList
    bytes? a = .ok (some 1000) ∧ bytes? b = .ok (some 1024) ∧
      Writes a (99999999999999999999999999999 / 10 ^ 26) ∧ Writes b 1024 ∧ 1000 ≤ 1024 := by
  intro a b
  have ha : bytes? a = .ok (some 1000) := by decide +kernel
  have hb : bytes? b = .ok (some 1024) := by decide +kernel
  have hliteral : literal? a = some (⟨99999999999999999999999999999, -29⟩, 1000) := by
    decide +kernel
  have hliteral' : literal? b = some (⟨1, 0⟩, 1024) := by decide +kernel
  have hwrites : Writes a (99999999999999999999999999999 / 10 ^ 26) := by
    convert writes_of_literal? hliteral using 1
    norm_num [value]
  have hwrites' : Writes b 1024 := by
    convert writes_of_literal? hliteral' using 1
    norm_num [value]
  obtain ⟨v, w, hv, hw, hle, -⟩ := sizes_in_order.2 a b 1000 1024 ha hb
  obtain rfl := (hv _).1 hwrites
  obtain rfl := (hw _).1 hwrites'
  exact ⟨ha, hb, hwrites, hwrites', hle (by norm_num)⟩

end FileSieve.ByteSize
