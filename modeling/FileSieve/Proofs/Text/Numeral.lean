import FileSieve.VirtualTag.TimeWindow

/-!
# Written numbers

Numbers are written with ASCII digits, and what is written is read again as the number it was
written from.

* `readDigits?_of_numeral?`: a numeral that is written is read as its number.
* `digitsValue_append`: what two texts of digits stand for, one after the other.
* `length_padded`, `digitsValue_padded`: a number with zeros in front has the width it is given,
  and it stands for the same number.
-/

namespace FileSieve

open Text

/-! ### Numerals -/

namespace Text

/-- The text is one of ASCII digits. -/
def IsNumeral (s : List Char) : Prop := s ≠ [] ∧ ∀ c ∈ s, c.isDigit = true

instance (s : List Char) : Decidable (IsNumeral s) :=
  have := List.decidableBAll (fun c : Char => c.isDigit = true) s
  inferInstanceAs (Decidable (_ ∧ _))

variable {n : Nat} {s : List Char} {c : Char}

/-- The ten ASCII digits. -/
def tenDigits : List Char := ['0', '1', '2', '3', '4', '5', '6', '7', '8', '9']

theorem mem_tenDigits (h : c.isDigit = true) : c ∈ tenDigits := by
  simp only [Char.isDigit, ge_iff_le, Bool.and_eq_true, decide_eq_true_eq] at h
  have hlow : 48 ≤ c.toNat := h.1
  have hhigh : c.toNat ≤ 57 := h.2
  have hall : ∀ k ∈ List.range 10, Char.ofNat (48 + k) ∈ tenDigits := by decide
  have hc := hall (c.toNat - 48) (List.mem_range.2 (by omega))
  rwa [show 48 + (c.toNat - 48) = c.toNat by omega, Char.ofNat_toNat] at hc

theorem isNumeral_toDigits (n : Nat) : IsNumeral (Nat.toDigits 10 n) :=
  ⟨Nat.toDigits_ne_nil, fun _ hc => Nat.isDigit_of_mem_toDigits (by decide) (by decide) hc⟩

theorem IsNumeral.not_mem (h : IsNumeral s) (hc : c.isDigit = false) : c ∉ s := by
  intro hmem
  rw [h.2 c hmem] at hc
  cases hc

theorem IsNumeral.isDigit (h : IsNumeral s) : ∀ c ∈ s, isDigit c = true := by
  intro c hc
  rw [Text.isDigit, digitValue_ascii (h.2 c hc)]
  rfl

theorem numeral?_eq_some (h : numeral? n = some s) :
    n < Nat.pow 10 maxNumeralLength ∧ s = Nat.toDigits 10 n := by
  unfold numeral? at h
  split at h
  · rename_i hn
    cases h
    exact ⟨hn, rfl⟩
  · cases h

theorem isNumeral_of_numeral? (h : numeral? n = some s) : IsNumeral s := by
  rw [(numeral?_eq_some h).2]
  exact isNumeral_toDigits n

theorem length_toDigits_le {k : Nat} (hk : 0 < k) (h : n < Nat.pow 10 k) :
    (Nat.toDigits 10 n).length ≤ k :=
  (Nat.length_toDigits_le_iff (by decide) hk).2 h

theorem length_of_numeral? (h : numeral? n = some s) : s.length ≤ maxNumeralLength := by
  obtain ⟨hn, rfl⟩ := numeral?_eq_some h
  exact length_toDigits_le (by decide) hn

theorem digitsValue_of_numeral? (h : numeral? n = some s) : digitsValue s = n := by
  rw [(numeral?_eq_some h).2]
  exact digitsValue_toDigits n

/-- A numeral that is written is read as its number. -/
theorem readDigits?_of_numeral? (h : numeral? n = some s) : readDigits? s = some n := by
  rw [readDigits?, if_pos (length_of_numeral? h), digitsValue_of_numeral? h]

/-- The digits of two texts, one after the other. -/
theorem digitsValue_append (a b : List Char) :
    digitsValue (a ++ b) = digitsValue a * Nat.pow 10 b.length + digitsValue b := by
  -- the digits that were read already count ten times as much with every further one
  suffices ∀ start, b.foldl (fun value c => 10 * value + (digitValue? c).getD 0) start =
      start * Nat.pow 10 b.length + digitsValue b by
    rw [digitsValue, List.foldl_append]
    exact this _
  induction b with
  | nil => simp [digitsValue]
  | cons c b ih =>
    intro start
    have hvalue : digitsValue (c :: b) =
        (digitValue? c).getD 0 * Nat.pow 10 b.length + digitsValue b := by
      rw [digitsValue, List.foldl_cons, ih, Nat.mul_zero, Nat.zero_add]
    have hpow : Nat.pow 10 (c :: b).length = 10 * Nat.pow 10 b.length := Nat.mul_comm _ _
    rw [List.foldl_cons, ih, hvalue, hpow, Nat.add_mul, Nat.add_assoc, Nat.mul_comm 10 start,
      Nat.mul_assoc]

/-- A text of digits stands for less than the power of ten of its length. -/
theorem digitsValue_lt (s : List Char) : digitsValue s < Nat.pow 10 s.length := by
  induction s with
  | nil => decide
  | cons c s ih =>
    have hdigit : digitsValue [c] < 10 := by
      rw [digitsValue, List.foldl_cons, Nat.mul_zero, Nat.zero_add, List.foldl_nil]
      cases h : digitValue? c with
      | none => decide
      | some d => exact digitValue_lt h
    calc digitsValue ([c] ++ s)
        = digitsValue [c] * Nat.pow 10 s.length + digitsValue s := digitsValue_append [c] s
      _ < digitsValue [c] * Nat.pow 10 s.length + Nat.pow 10 s.length := Nat.add_lt_add_left ih _
      _ = (digitsValue [c] + 1) * Nat.pow 10 s.length := (Nat.succ_mul _ _).symm
      _ ≤ 10 * Nat.pow 10 s.length := Nat.mul_le_mul_right _ hdigit
      _ = Nat.pow 10 (c :: s).length := Nat.mul_comm _ _

theorem digitsValue_lt_of_le {k : Nat} (h : s.length ≤ k) : digitsValue s < Nat.pow 10 k :=
  Nat.lt_of_lt_of_le (digitsValue_lt s) (Nat.pow_le_pow_right (by decide) h)

theorem exists_numeral?_iff : (∃ s, numeral? n = some s) ↔ n < Nat.pow 10 maxNumeralLength := by
  unfold numeral?
  split <;> simp_all

end Text

/-- The text of a number that is not negative is a numeral. -/
theorem numeralText_natCast {n : Nat} {s : List Char} (h : numeralText n = .ok s) :
    numeral? n = some s := by
  unfold numeralText at h
  split at h
  · rename_i digits hdigits
    cases h
    exact hdigits
  · cases h

/-- A number that is not negative has a text when its numeral is not too long. -/
theorem exists_numeralText_iff {n : Nat} :
    (∃ s, numeralText n = .ok s) ↔ n < Nat.pow 10 maxNumeralLength := by
  rw [← exists_numeral?_iff]
  constructor
  · rintro ⟨s, h⟩
    exact ⟨s, numeralText_natCast h⟩
  · rintro ⟨s, h⟩
    exact ⟨s, by rw [numeralText, show signedNumeral? n = numeral? n from rfl, h]⟩

/-! ### Numbers with zeros in front -/

namespace Calendar

theorem digitsValue_append_zeros {s : List Char} (k : Nat) :
    digitsValue (List.replicate k '0' ++ s) = digitsValue s := by
  have hzero : (10 * 0 + (digitValue? '0').getD 0 : Nat) = 0 := by decide
  induction k with
  | zero => rfl
  | succ k ih =>
    rw [← ih]
    simp only [digitsValue, List.replicate_succ, List.cons_append, List.foldl_cons, hzero]

theorem isNumeral_padded (width n : Nat) : IsNumeral (padded width n) := by
  obtain ⟨hne, hdigits⟩ := isNumeral_toDigits n
  refine ⟨fun h => hne (List.append_eq_nil_iff.1 h).2, fun c hc => ?_⟩
  rcases List.mem_append.1 hc with hc | hc
  · rw [List.eq_of_mem_replicate hc]; rfl
  · exact hdigits c hc

theorem digitsValue_padded (width n : Nat) : digitsValue (padded width n) = n := by
  rw [padded, digitsValue_append_zeros, digitsValue_toDigits]

theorem length_padded {width n : Nat} (hwidth : 0 < width) (h : n < Nat.pow 10 width) :
    (padded width n).length = width := by
  have hlength := length_toDigits_le hwidth h
  simp only [padded, List.length_append, List.length_replicate]
  omega

end Calendar

end FileSieve
