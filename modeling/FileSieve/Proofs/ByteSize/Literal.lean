import FileSieve.Proofs.ByteSize.Value
import FileSieve.Proofs.Text.Blank
import FileSieve.Proofs.Text.LetterCase

/-!
# Size literals and what they stand for

A size literal is an amount, perhaps with a fraction, then blanks, then perhaps a unit. It stands
for the amount times the unit, as an exact rational number. What is read is wider than that: the
digits may be of any script, and there may be blanks around.

* `unitFactor?_eq_some_iff`: the units that are known.
* `amount?_of_writesNumber`, `writesNumber_of_amount?`: the amount of a literal.
* `literal?_of_writes`, `writes_of_literal?`: the texts that are read as literals.
* `writes_of_denotes`, `denotes_of_writes`: which of them are literals as they should be.
* `size_exact_of_isPlain`: the texts that are sizes, and how many bytes they stand for.
-/

namespace FileSieve.ByteSize

open Text Significand

variable {s text rest word unit : List Char} {v w : ℚ} {amount : Significand} {factor : Nat}

/-! ### Literals -/

/-- The letters for powers of 1000 and of 1024. -/
def prefixes : List (Char × Nat) := [('k', 1), ('m', 2), ('g', 3), ('t', 4), ('p', 5)]

/-- The word, in small letters, stands for a number of bytes. -/
def IsUnitWord (word : List Char) (factor : Nat) : Prop :=
  (word = [] ∨ word = ['b']) ∧ factor = 1 ∨
    ∃ p ∈ prefixes, (word = [p.1] ∨ word = [p.1, 'b']) ∧ factor = 1000 ^ p.2 ∨
      word = [p.1, 'i', 'b'] ∧ factor = 1024 ^ p.2

instance (word : List Char) (factor : Nat) : Decidable (IsUnitWord word factor) :=
  inferInstanceAs (Decidable (_ ∨ _))

/-- The text writes a number in ASCII digits, perhaps with a fraction. -/
inductive IsAmount : List Char → ℚ → Prop where
  | whole {digits : List Char} (h : IsNumeral digits) :
      IsAmount digits (Nat.ofDigitChars 10 digits 0)
  | fraction {digits decimals : List Char} (h : IsNumeral digits) (h' : IsNumeral decimals) :
      IsAmount (digits ++ '.' :: decimals) (Nat.ofDigitChars 10 digits 0 +
        Nat.ofDigitChars 10 decimals 0 / 10 ^ decimals.length)

/-- The text is a size literal for a number of bytes: an amount, blanks, and a unit in letters of
either case. -/
inductive Denotes : List Char → ℚ → Prop where
  | intro {text blanks unit : List Char} {a : ℚ} {factor : Nat} (hamount : IsAmount text a)
      (hblanks : IsBlankText blanks) (hunit : IsUnitWord (unit.map Char.toLower) factor) :
      Denotes (text ++ blanks ++ unit) (a * factor)

/-- No digit of the text is of another script, and there is no Kelvin sign in it. -/
def IsPlain (s : List Char) : Prop :=
  ∀ c ∈ s, (isDigit c = true → c.isDigit = true) ∧ c ≠ kelvinSign

instance (s : List Char) : Decidable (IsPlain s) :=
  List.decidableBAll (fun c => (isDigit c = true → c.isDigit = true) ∧ c ≠ kelvinSign) s

/-- The text is one of digits, of any script. -/
def IsDigitText (s : List Char) : Prop := s ≠ [] ∧ ∀ c ∈ s, isDigit c = true

/-- The text writes a number in digits of any script, perhaps with a fraction. -/
inductive WritesNumber : List Char → ℚ → Prop where
  | whole {digits : List Char} (h : IsDigitText digits) : WritesNumber digits (digitsValue digits)
  | fraction {digits decimals : List Char} (h : IsDigitText digits) (h' : IsDigitText decimals) :
      WritesNumber (digits ++ '.' :: decimals)
        (digitsValue digits + digitsValue decimals / 10 ^ decimals.length)

/-- The text writes a number of bytes: a number and a unit, whose letters are small or capital ones
of any kind, with blanks around and in between. -/
inductive Writes : List Char → ℚ → Prop where
  | intro {before number between unit after : List Char} {a : ℚ} {factor : Nat}
      (hbefore : IsBlankText before) (hnumber : WritesNumber number a)
      (hbetween : IsBlankText between) (hunit : IsUnitWord (lowerText unit) factor)
      (hafter : IsBlankText after) :
      Writes (before ++ (number ++ (between ++ unit ++ after))) (a * factor)

/-! ### Units -/

theorem lookup_units_eq_some_iff :
    units.lookup (.ofList word) = some factor ↔ IsUnitWord word factor := by
  constructor
  · intro h
    have hall : ∀ entry ∈ units, IsUnitWord entry.1.toList entry.2 := by decide
    obtain ⟨before, after, hunits, -⟩ := List.lookup_eq_some_iff.1 h
    have hword := hall (.ofList word, factor) (by rw [hunits]; simp)
    rwa [String.toList_ofList] at hword
  · have hall : ∀ p ∈ prefixes, units.lookup (.ofList [p.1]) = some (1000 ^ p.2) ∧
        units.lookup (.ofList [p.1, 'b']) = some (1000 ^ p.2) ∧
        units.lookup (.ofList [p.1, 'i', 'b']) = some (1024 ^ p.2) := by decide
    rintro (⟨rfl | rfl, rfl⟩ | ⟨p, hp, ⟨rfl | rfl, rfl⟩ | ⟨rfl, rfl⟩⟩)
    · rfl
    · rfl
    · exact (hall p hp).1
    · exact (hall p hp).2.1
    · exact (hall p hp).2.2

theorem unitFactor?_eq_some_iff :
    unitFactor? unit = some factor ↔ IsUnitWord (lowerText unit) factor :=
  lookup_units_eq_some_iff

theorem IsUnitWord.mem_units (h : IsUnitWord word factor) : (.ofList word, factor) ∈ units := by
  obtain ⟨before, after, hunits, -⟩ := List.lookup_eq_some_iff.1 (lookup_units_eq_some_iff.2 h)
  rw [hunits]
  exact List.mem_append_right _ List.mem_cons_self

theorem IsUnitWord.isLower (h : IsUnitWord word factor) : ∀ c ∈ word, c.isLower = true := by
  have hall : ∀ entry ∈ units, entry.1.toList.all Char.isLower = true := by decide
  have hword := hall _ h.mem_units
  rwa [String.toList_ofList, List.all_eq_true] at hword

theorem lt_of_isLower_toLower {c : Char} (h : c.toLower.isLower = true) : c.toNat < 128 := by
  unfold Char.toLower at h
  split at h
  · rename_i hupper
    have hlast : c.toNat ≤ 90 := hupper.2
    omega
  · have hlast := toNat_le_of_isLower h
    omega

/-- The characters of a unit are letters of ASCII. -/
theorem IsUnitWord.toNat_lt (h : IsUnitWord (unit.map Char.toLower) factor) :
    ∀ c ∈ unit, c.toNat < 128 := by
  intro c hc
  exact lt_of_isLower_toLower (h.isLower _ (List.mem_map_of_mem hc))

/-- The letters of ASCII have the lower case that they have in any text. -/
theorem IsUnitWord.lowerText (h : IsUnitWord (unit.map Char.toLower) factor) :
    IsUnitWord (lowerText unit) factor := by
  rwa [lowerText_eq_map_toLower h.toNat_lt]

theorem isUnitWord_map_toLower (h : IsUnitWord (lowerText unit) factor)
    (hkelvin : kelvinSign ∉ unit) : IsUnitWord (unit.map Char.toLower) factor := by
  have hascii : ∀ c ∈ unit, c.toNat < 128 := by
    intro c hc
    rcases eq_kelvinSign_or_isLower h.isLower c hc with rfl | hlower
    · exact absurd hc hkelvin
    · exact hlower.1
  rwa [← lowerText_eq_map_toLower hascii]

/-- A text whose lower case consists of small ASCII letters has neither blanks nor digits nor dots
in it. -/
theorem letters_of_isLower (h : ∀ c ∈ Text.lowerText s, c.isLower = true) :
    ∀ c ∈ s, isBlank c = false ∧ isDigit c = false ∧ c ≠ '.' := by
  have hall : ∀ code < 128, (Char.ofNat code).toLower.isLower = true →
      isBlank (Char.ofNat code) = false ∧ isDigit (Char.ofNat code) = false ∧
        Char.ofNat code ≠ '.' := by
    decide
  intro c hc
  rcases eq_kelvinSign_or_isLower h c hc with rfl | ⟨hlt, hlower⟩
  · decide
  · have hletter := hall c.toNat hlt
    rw [Char.ofNat_toNat] at hletter
    exact hletter hlower

/-- A unit has neither blanks nor digits nor dots in it. -/
theorem IsUnitWord.letters (h : IsUnitWord (Text.lowerText unit) factor) :
    ∀ c ∈ unit, isBlank c = false ∧ isDigit c = false ∧ c ≠ '.' :=
  letters_of_isLower h.isLower

theorem IsUnitWord.isTrimmed (h : IsUnitWord (Text.lowerText unit) factor) : IsTrimmed unit :=
  ⟨fun c hc => (h.letters c (List.mem_of_head? hc)).1,
    fun c hc => (h.letters c (List.mem_of_getLast? hc)).1⟩

/-! ### Amounts -/

/-- Neither a digit nor the dot is a blank. -/
theorem not_isDigit_of_isBlank {c : Char} (h : isBlank c = true) : isDigit c = false ∧ c ≠ '.' := by
  have hranges : ∀ range ∈ blankRanges, ∀ start ∈ zeroDigits,
      range.2 < start ∨ start + 10 ≤ range.1 := by
    decide
  constructor
  · obtain ⟨range, hrange, hlow, hhigh⟩ := inRanges_iff.1 h
    rw [isDigit, digitValue?, Option.isSome_map, Option.isSome_eq_false_iff,
      Option.isNone_iff_eq_none, List.find?_eq_none]
    intro start hstart
    have := hranges range hrange start hstart
    simp only [Bool.and_eq_true, decide_eq_true_eq]
    omega
  · rintro rfl
    revert h
    decide

theorem not_isBlank_of_anyDigit {c : Char} (h : isDigit c = true) : isBlank c = false := by
  by_contra hblank
  rw [(not_isDigit_of_isBlank (Bool.eq_true_of_not_eq_false hblank)).1] at h
  cases h

/-- A number starts with a digit. -/
theorem WritesNumber.exists_cons (h : WritesNumber text v) :
    ∃ c rest, text = c :: rest ∧ isDigit c = true := by
  cases h with
  | whole h | fraction h h' =>
    obtain ⟨c, rest, rfl⟩ := List.exists_cons_of_ne_nil h.1
    exact ⟨c, _, rfl, h.2 c List.mem_cons_self⟩

theorem WritesNumber.isBlank_head (h : WritesNumber text v) :
    ∀ c, (text ++ rest).head? = some c → isBlank c = false := by
  intro c hc
  obtain ⟨first, tail, rfl, hfirst⟩ := h.exists_cons
  cases hc
  exact not_isBlank_of_anyDigit hfirst

theorem WritesNumber.isTrimmed (h : WritesNumber text v) : IsTrimmed text := by
  constructor
  · intro c hc
    obtain ⟨first, tail, rfl, hfirst⟩ := h.exists_cons
    cases hc
    exact not_isBlank_of_anyDigit hfirst
  · intro c hc
    cases h with
    | whole h => exact not_isBlank_of_anyDigit (h.2 c (List.mem_of_getLast? hc))
    | fraction h h' =>
      rw [List.getLast?_append_of_ne_nil _ (List.cons_ne_nil _ _),
        List.getLast?_cons_of_ne_nil h'.1] at hc
      exact not_isBlank_of_anyDigit (h'.2 c (List.mem_of_getLast? hc))

/-- A fraction of so many digits. -/
theorem value_fraction (a b : List Char) :
    value ⟨digitsValue (a ++ b), -(b.length : Int)⟩ =
      digitsValue a + digitsValue b / 10 ^ b.length := by
  simp only [value]
  rw [digitsValue_append, Nat.pow_eq, zpow_neg, zpow_natCast]
  push_cast
  field_simp

/-- A number is the amount, if neither a digit nor a dot comes next. -/
theorem amount?_of_writesNumber (h : WritesNumber text v)
    (hrest : ∀ c, rest.head? = some c → isDigit c = false ∧ c ≠ '.') :
    ∃ amount, amount? (text ++ rest) = some (amount, rest) ∧ amount.value = v := by
  have hstop : ∀ c, rest.head? = some c → isDigit c = false := fun c hc => (hrest c hc).1
  cases h with
  | whole h =>
    refine ⟨⟨digitsValue text, 0⟩, ?_, by simp [value]⟩
    unfold amount?
    simp only [takeWhile_append_of_head h.2 hstop, dropWhile_append_of_head h.2 hstop,
      List.isEmpty_iff, h.1, if_false]
    split
    · exact absurd rfl (hrest '.' rfl).2
    · rfl
  | @fraction digits decimals h h' =>
    refine ⟨⟨digitsValue (digits ++ decimals), -(decimals.length : Int)⟩, ?_, value_fraction _ _⟩
    have hdot : ∀ c, ('.' :: (decimals ++ rest)).head? = some c → isDigit c = false := by
      intro c hc
      cases hc
      decide
    unfold amount?
    simp only [List.append_assoc, List.cons_append, takeWhile_append_of_head h.2 hdot,
      dropWhile_append_of_head h.2 hdot, takeWhile_append_of_head h'.2 hstop,
      dropWhile_append_of_head h'.2 hstop, List.isEmpty_iff, h.1, h'.1, if_false]

theorem isDigitText_takeWhile (h : (s.takeWhile isDigit).isEmpty = false) :
    IsDigitText (s.takeWhile isDigit) :=
  ⟨by simpa using h, fun _ hc => List.mem_takeWhile_imp hc⟩

/-- What is read as an amount is a number. -/
theorem writesNumber_of_amount? (h : amount? s = some (amount, rest)) :
    ∃ text, s = text ++ rest ∧ WritesNumber text amount.value := by
  have hs : s.takeWhile isDigit ++ s.dropWhile isDigit = s := List.takeWhile_append_dropWhile
  have hvalue : value ⟨digitsValue (s.takeWhile isDigit), 0⟩ =
      digitsValue (s.takeWhile isDigit) := by
    simp [value]
  unfold amount? at h
  simp only at h
  split at h
  · cases h
  · rename_i hwhole
    have hdigits := isDigitText_takeWhile (Bool.eq_false_of_not_eq_true hwhole)
    split at h
    · rename_i after hafter
      split at h
      · cases h
        exact ⟨s.takeWhile isDigit, hs.symm, hvalue ▸ .whole hdigits⟩
      · rename_i hfraction
        cases h
        have hdecimals := isDigitText_takeWhile (Bool.eq_false_of_not_eq_true hfraction)
        refine ⟨s.takeWhile isDigit ++ '.' :: after.takeWhile isDigit, ?_, ?_⟩
        · rw [List.append_assoc, List.cons_append, List.takeWhile_append_dropWhile, ← hafter, hs]
        · rw [value_fraction]
          exact .fraction hdigits hdecimals
    · cases h
      exact ⟨s.takeWhile isDigit, hs.symm, hvalue ▸ .whole hdigits⟩

theorem IsAmount.writesNumber (h : IsAmount text v) : WritesNumber text v := by
  cases h with
  | whole h =>
    rw [← digitsValue_eq_ofDigitChars h.2]
    exact .whole ⟨h.1, h.isDigit⟩
  | fraction h h' =>
    rw [← digitsValue_eq_ofDigitChars h.2, ← digitsValue_eq_ofDigitChars h'.2]
    exact .fraction ⟨h.1, h.isDigit⟩ ⟨h'.1, h'.isDigit⟩

/-- A number whose digits are those of ASCII is an amount. -/
theorem isAmount_of_writesNumber (h : WritesNumber text v) (hplain : IsPlain text) :
    IsAmount text v := by
  have hascii {t : List Char} (ht : IsDigitText t) (hmem : ∀ c ∈ t, c ∈ text) : IsNumeral t :=
    ⟨ht.1, fun c hc => (hplain c (hmem c hc)).1 (ht.2 c hc)⟩
  cases h with
  | whole h =>
    have hdigits := hascii h fun c hc => hc
    rw [digitsValue_eq_ofDigitChars hdigits.2]
    exact .whole hdigits
  | fraction h h' =>
    have hdigits := hascii h fun c hc => List.mem_append_left _ hc
    have hdecimals := hascii h' fun c hc => List.mem_append_right _ (List.mem_cons_of_mem _ hc)
    rw [digitsValue_eq_ofDigitChars hdigits.2, digitsValue_eq_ofDigitChars hdecimals.2]
    exact .fraction hdigits hdecimals

theorem IsAmount.head (h : IsAmount text v) : ∃ c rest, text = c :: rest ∧ c.isDigit = true := by
  cases h with
  | whole h | fraction h h' =>
    obtain ⟨c, rest, rfl⟩ := List.exists_cons_of_ne_nil h.1
    exact ⟨c, _, rfl, h.2 c List.mem_cons_self⟩

theorem IsAmount.isTrimmed (h : IsAmount text v) : IsTrimmed text := h.writesNumber.isTrimmed

/-! ### Reading -/

/-- **What a text writes is read**, whatever blanks are around it. -/
theorem literal?_of_writes (h : Writes s v) :
    ∃ amount factor, literal? s = some (amount, factor) ∧ amount.value * factor = v := by
  cases h with
  | @intro before number between unit after a factor hbefore hnumber hbetween hunit hafter =>
    -- neither a blank nor a letter goes on with a number
    have hrest : ∀ c, (between ++ unit ++ after).head? = some c → isDigit c = false ∧ c ≠ '.' := by
      intro c hc
      rcases List.mem_append.1 (List.mem_of_head? hc) with hc | hc
      · rcases List.mem_append.1 hc with hc | hc
        · exact not_isDigit_of_isBlank (hbetween c hc)
        · exact (hunit.letters c hc).2
      · exact not_isDigit_of_isBlank (hafter c hc)
    obtain ⟨amount, hread, rfl⟩ := amount?_of_writesNumber hnumber hrest
    refine ⟨amount, factor, ?_, rfl⟩
    simp only [literal?, dropWhile_append_of_head hbefore hnumber.isBlank_head, hread,
      Option.bind_eq_bind, Option.bind_some, trimBlanks_padded hbetween hafter hunit.isTrimmed,
      unitFactor?_eq_some_iff.2 hunit]
    rfl

/-- **What is read as a literal is written.** -/
theorem writes_of_literal? (h : literal? s = some (amount, factor)) :
    Writes s (amount.value * factor) := by
  obtain ⟨⟨amount, rest⟩, hamount, h⟩ := Option.bind_eq_some_iff.1 h
  obtain ⟨factor, hfactor, h⟩ := Option.bind_eq_some_iff.1 h
  cases h
  obtain ⟨number, hnumber, hwrites⟩ := writesNumber_of_amount? hamount
  obtain ⟨between, after, hbetween, hafter, hrest⟩ := exists_trimBlanks rest
  have hs : s = s.takeWhile isBlank ++ (number ++ (between ++ trimBlanks rest ++ after)) := by
    rw [← hrest, ← hnumber, List.takeWhile_append_dropWhile]
  rw [hs]
  exact .intro (fun c hc => List.mem_takeWhile_imp hc) hwrites hbetween
    (unitFactor?_eq_some_iff.1 hfactor) hafter

/-- A text writes one number of bytes. -/
theorem Writes.unique (h : Writes s v) (h' : Writes s w) : v = w := by
  obtain ⟨amount, factor, hliteral, rfl⟩ := literal?_of_writes h
  obtain ⟨amount', factor', hliteral', rfl⟩ := literal?_of_writes h'
  cases hliteral.symm.trans hliteral'
  rfl

/-- A literal writes what it denotes, whatever blanks are around it. -/
theorem writes_of_denotes (h : Denotes (trimBlanks s) v) : Writes s v := by
  obtain ⟨before, after, hbefore, hafter, hs⟩ := exists_trimBlanks s
  generalize trimBlanks s = middle at h hs
  cases h with
  | intro hamount hblanks hunit =>
    rw [hs]
    simp only [List.append_assoc]
    rw [← List.append_assoc _ _ after]
    exact .intro hbefore hamount.writesNumber hblanks hunit.lowerText hafter

/-- **What a plain text writes is a literal**, but for the blanks around it. -/
theorem denotes_of_writes (h : Writes s v) (hplain : IsPlain s) : Denotes (trimBlanks s) v := by
  cases h with
  | @intro before number between unit after a factor hbefore hnumber hbetween hunit hafter =>
    have hamount : IsAmount number a := by
      refine isAmount_of_writesNumber hnumber fun c hc => hplain c ?_
      simp [hc]
    have hascii : IsUnitWord (unit.map Char.toLower) factor := by
      refine isUnitWord_map_toLower hunit fun hc => (hplain kelvinSign ?_).2 rfl
      simp [hc]
    by_cases hempty : unit = []
    · -- without a unit, all that comes after the amount is blank
      subst hempty
      have htrim : trimBlanks (before ++ (number ++ (between ++ [] ++ after))) = number := by
        rw [← List.append_assoc before]
        refine trimBlanks_padded hbefore ?_ hamount.isTrimmed
        intro c hc
        rw [List.append_nil] at hc
        exact (List.mem_append.1 hc).elim (hbetween c) (hafter c)
      have hnone : IsBlankText [] := by decide
      rw [htrim]
      simpa using Denotes.intro hamount hnone hascii
    · have htrim : trimBlanks (before ++ (number ++ (between ++ unit ++ after))) =
          number ++ between ++ unit := by
        rw [← List.append_assoc number, ← List.append_assoc number, ← List.append_assoc before]
        refine trimBlanks_padded hbefore hafter ⟨fun c hc => ?_, fun c hc => ?_⟩
        · obtain ⟨first, _, rfl, hfirst⟩ := hamount.head
          cases hc
          exact not_isBlank_of_isDigit hfirst
        · rw [List.getLast?_append_of_ne_nil _ hempty] at hc
          exact hunit.isTrimmed.last c hc
      rw [htrim]
      exact .intro hamount hbetween hascii

/-! ### Sizes -/

theorem bytes?_of_denotes (h : Denotes (trimBlanks s) v) (hv : v < valueBound) :
    (∃ n, bytes? s = .ok (some n)) ∧ (IsShort v → bytes? s = .ok (some ⌊v⌋₊)) := by
  obtain ⟨amount, factor, hliteral, rfl⟩ := literal?_of_writes (writes_of_denotes h)
  simp only [bytes?, hliteral]
  constructor
  · obtain ⟨n, hn⟩ := exists_product_of_lt hv
    exact ⟨n, by rw [hn]; rfl⟩
  · intro hshort
    rw [product_of_isShort hv hshort]
    rfl

theorem bytes?_eq_none_iff : bytes? s = .ok none ↔ literal? s = none := by
  unfold bytes?
  cases literal? s with
  | none => simp
  | some entry =>
    obtain ⟨amount, factor⟩ := entry
    refine iff_of_false (fun h => ?_) (by simp)
    obtain ⟨n, -, hn⟩ := map_eq_ok_iff.1 h
    cases hn

theorem bytes?_eq_none_iff_not_denotes (hplain : IsPlain s) :
    bytes? s = .ok none ↔ ∀ v, ¬ Denotes (trimBlanks s) v := by
  rw [bytes?_eq_none_iff]
  constructor
  · intro hnone v hv
    obtain ⟨amount, factor, hliteral, -⟩ := literal?_of_writes (writes_of_denotes hv)
    cases hnone.symm.trans hliteral
  · intro hnot
    cases hliteral : literal? s with
    | none => rfl
    | some entry => exact absurd (denotes_of_writes (writes_of_literal? hliteral) hplain) (hnot _)

/-- **The texts that are sizes, and how many bytes they stand for.** A text in which all digits are
those of ASCII, and without a Kelvin sign, is a size if it is a size literal, whatever blanks are
around it. One below the bound is worked out, and at most 28 digits are kept as they are: then what
comes out is the exact number of bytes, rounded down. -/
theorem size_exact_of_isPlain (hplain : IsPlain s) :
    (bytes? s = .ok none ↔ ∀ v, ¬ Denotes (trimBlanks s) v) ∧
      ∀ v, Denotes (trimBlanks s) v → v < valueBound →
        (∃ n, bytes? s = .ok (some n)) ∧ (IsShort v → bytes? s = .ok (some ⌊v⌋₊)) :=
  ⟨bytes?_eq_none_iff_not_denotes hplain, fun _ h hv => bytes?_of_denotes h hv⟩

/-- One and a half binary units, with blanks around. -/
theorem size_exact_of_binary_fraction :
    let s := " 1.5\tKiB\n".toList
    IsPlain s ∧ Denotes (trimBlanks s) 1536 ∧ (1536 : ℚ) < valueBound ∧ IsShort 1536 ∧
      bytes? s = .ok (some 1536) := by
  intro s
  have hplain : IsPlain s := by decide
  have hdenotes : Denotes (trimBlanks s) 1536 := by
    have hone : IsNumeral ['1'] := by decide
    have hfive : IsNumeral ['5'] := by decide
    have htab : IsBlankText ['\t'] := by decide
    have hunit : IsUnitWord ("KiB".toList.map Char.toLower) 1024 := by decide
    have hvalue : ((Nat.ofDigitChars 10 ['1'] 0 : ℚ) + Nat.ofDigitChars 10 ['5'] 0 / 10 ^ 1) *
        (1024 : ℕ) = 1536 := by
      rw [show Nat.ofDigitChars 10 ['1'] 0 = 1 from rfl,
        show Nat.ofDigitChars 10 ['5'] 0 = 5 from rfl]
      norm_num
    exact hvalue ▸ Denotes.intro (.fraction hone hfive) htab hunit
  have hbound : (1536 : ℚ) < valueBound := lt_valueBound (by norm_num [precision])
  have hshort : IsShort 1536 := ⟨1536, 0, by norm_num [precision], by norm_num⟩
  have hbytes := ((size_exact_of_isPlain hplain).2 _ hdenotes hbound).2 hshort
  refine ⟨hplain, hdenotes, hbound, hshort, ?_⟩
  rw [hbytes]
  norm_num

/-! ### Where sizes are no such literals -/

/-- The characters of a literal are those of ASCII, and blanks. -/
theorem Denotes.toNat_lt_or_isBlank (h : Denotes s v) :
    ∀ c ∈ s, c.toNat < 128 ∨ isBlank c = true := by
  have hdigit {c : Char} (hc : c.isDigit = true) : c.toNat < 128 := by
    simp only [Char.isDigit, Bool.and_eq_true, decide_eq_true_eq] at hc
    have hlast : c.toNat ≤ 57 := hc.2
    omega
  cases h with
  | intro hamount hblanks hunit =>
    intro c hc
    rcases List.mem_append.1 hc with hc | hc
    · rcases List.mem_append.1 hc with hc | hc
      · left
        cases hamount with
        | whole h => exact hdigit (h.2 c hc)
        | fraction h h' =>
          rcases List.mem_append.1 hc with hc | hc
          · exact hdigit (h.2 c hc)
          · rcases List.mem_cons.1 hc with rfl | hc
            · decide
            · exact hdigit (h'.2 c hc)
      · exact .inr (hblanks c hc)
    · exact .inl (hunit.toNat_lt c hc)

theorem Denotes.head (h : Denotes s v) : ∃ c rest, s = c :: rest ∧ c.isDigit = true := by
  cases h with
  | intro hamount hblanks hunit =>
    obtain ⟨c, rest, rfl, hc⟩ := hamount.head
    exact ⟨c, _, rfl, hc⟩

theorem denotes_of_isNumeral (h : IsNumeral s) : Denotes s (Nat.ofDigitChars 10 s 0) := by
  have hunit : IsUnitWord (([] : List Char).map Char.toLower) 1 := by decide
  have hnone : IsBlankText [] := by decide
  simpa using Denotes.intro (.whole h) hnone hunit

/-- An exact number beyond the highest power of ten is not worked out. -/
theorem bytes?_toDigits_eq_error {n : Nat} (hexact : IsExact n)
    (hlarge : Nat.pow 10 (highestPower.toNat + 1) ≤ n) :
    bytes? (Nat.toDigits 10 n) = .error ⟨⟩ := by
  rw [bytes?_eq_error_iff]
  refine ⟨_, _, literal?_of_isNumeral (isNumeral_toDigits n), ?_⟩
  rw [digitsValue_toDigits, Nat.mul_one, floor_eq, value_rounded_of_isExact hexact]
  simpa [value] using hlarge

/-- **Some texts that are sizes are no size literals, and some size literals are not exact**: blanks
around a literal, digits of another script, and a Kelvin sign are taken, 29 digits are rounded up,
and a size with a million zeros is not worked out. -/
theorem not_size_iff_denotes :
    (bytes? " 10KB ".toList = .ok (some 10000) ∧ ∀ v, ¬ Denotes " 10KB ".toList v) ∧
      (bytes? "١٢KB".toList = .ok (some 12000) ∧ ∀ v, ¬ Denotes "١٢KB".toList v) ∧
      (bytes? "1\u212a".toList = .ok (some 1000) ∧ ∀ v, ¬ Denotes "1\u212a".toList v) ∧
      (Denotes "99999999999999999999999999999".toList 99999999999999999999999999999 ∧
        bytes? "99999999999999999999999999999".toList =
          .ok (some 100000000000000000000000000000)) ∧
      ∃ s v, Denotes s v ∧ bytes? s = .error ⟨⟩ := by
  refine ⟨⟨by decide +kernel, fun v h => ?_⟩, ⟨by decide +kernel, fun v h => ?_⟩,
    ⟨by decide +kernel, fun v h => ?_⟩, ⟨?_, by decide +kernel⟩, ?_⟩
  · obtain ⟨c, rest, hs, hc⟩ := h.head
    cases hs
    cases hc
  · obtain ⟨c, rest, hs, hc⟩ := h.head
    cases hs
    cases hc
  · rcases h.toNat_lt_or_isBlank '\u212a' (by decide) with hlt | hblank
    · revert hlt
      decide
    · revert hblank
      decide
  · have hvalue : Nat.ofDigitChars 10 "99999999999999999999999999999".toList 0 =
        99999999999999999999999999999 := by decide
    have h := denotes_of_isNumeral (s := "99999999999999999999999999999".toList) (by decide)
    rwa [hvalue] at h
  · have hexact : IsExact (Nat.pow 10 (highestPower.toNat + 1)) :=
      ⟨1, _, (Nat.one_mul _).symm, by decide⟩
    exact ⟨_, _, denotes_of_isNumeral (isNumeral_toDigits _),
      bytes?_toDigits_eq_error hexact le_rfl⟩

end FileSieve.ByteSize
