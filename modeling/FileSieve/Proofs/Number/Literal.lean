import FileSieve.Number.FloatLiteral
import FileSieve.Proofs.ByteSize.Literal

/-!
# Which texts are numbers

A number that stands alone in a text, with blanks around it that may surround a number, is read as
one: a short text of digits as a whole number, every other one as a floating point number. What is
read as a number has no other characters than blanks, digits and a few marks.

* `integerLiteral?_of_digits`, `integerLiteral?_of_dot`: which numbers are whole ones.
* `exists_literal?_of_writesNumber`: all of them are floating point numbers.
* `isNumberChar_of_integerLiteral?`, `isNumberChar_of_literal?`: the characters of numbers.
* `Writes.standsAlone`: which sizes are numbers, too.
-/

namespace FileSieve

open Text ByteSize

variable {s number digits : List Char} {c d : Char} {v : ℚ}

/-! ### Numbers that stand alone -/

namespace Text

/-- The text is a number with blanks around it that may surround a number. -/
def StandsAlone (number s : List Char) : Prop :=
  ∃ before after, (∀ c ∈ before, isNumberBlank c = true) ∧ (∀ c ∈ after, isNumberBlank c = true) ∧
    s = before ++ number ++ after

theorem isBlank_of_isNumberBlank (h : isNumberBlank c = true) : isBlank c = true :=
  (Bool.and_eq_true_iff.1 h).1

theorem not_isNumberBlank (h : isBlank c = false) : isNumberBlank c = false := by
  rw [isNumberBlank, h, Bool.false_and]

theorem standsAlone_trimNumberBlanks (s : List Char) : StandsAlone (trimNumberBlanks s) s :=
  exists_trim isNumberBlank s

theorem StandsAlone.mem (h : StandsAlone number s) (hc : c ∈ s) :
    isNumberBlank c = true ∨ c ∈ number := by
  obtain ⟨before, after, hbefore, hafter, rfl⟩ := h
  rcases List.mem_append.1 hc with hc | hc
  · exact (List.mem_append.1 hc).imp (hbefore c) id
  · exact .inl (hafter c hc)

theorem StandsAlone.mem_of_mem (h : StandsAlone number s) (hc : c ∈ number) : c ∈ s := by
  obtain ⟨before, after, -, -, rfl⟩ := h
  exact List.mem_append_left _ (List.mem_append_right _ hc)

theorem StandsAlone.trimNumberBlanks_eq (h : StandsAlone number s) (hnumber : IsTrimmed number) :
    trimNumberBlanks s = number := by
  obtain ⟨before, after, hbefore, hafter, rfl⟩ := h
  exact trim_padded hbefore hafter (fun c hc => not_isNumberBlank (hnumber.head c hc))
    fun c hc => not_isNumberBlank (hnumber.last c hc)

end Text

namespace ByteSize

/-- A number has digits, and at most a dot. -/
theorem WritesNumber.isDigit_or_eq (h : WritesNumber number v) (hc : c ∈ number) :
    isDigit c = true ∨ c = '.' := by
  cases h with
  | whole h => exact .inl (h.2 c hc)
  | fraction h h' =>
    rcases List.mem_append.1 hc with hc | hc
    · exact .inl (h.2 c hc)
    · exact (List.mem_cons.1 hc).symm.imp (h'.2 c) id

/-- A number without a dot is a text of digits. -/
theorem WritesNumber.isDigitText (h : WritesNumber number v) (hdot : '.' ∉ number) :
    IsDigitText number := by
  obtain ⟨first, rest, rfl, -⟩ := h.exists_cons
  refine ⟨List.cons_ne_nil _ _, fun c hc => (h.isDigit_or_eq hc).resolve_right ?_⟩
  rintro rfl
  exact hdot hc

end ByteSize

/-! ### Characters of numbers -/

namespace Text

/-- The characters of decimal numbers that are no digits. -/
def decimalMarks : List Char := ['-', '+', '.', 'e', 'E']

/-- The character may stand in the text of a number. -/
def IsNumberChar (c : Char) : Prop :=
  isNumberBlank c = true ∨ isDigit c = true ∨ c = '_' ∨ c ∈ decimalMarks

theorem splitSign_of_isDigit {rest : List Char} (h : isDigit c = true) :
    splitSign (c :: rest) = (false, c :: rest) := by
  unfold splitSign
  split
  · rename_i heq
    cases heq
    exact absurd h (by decide)
  · rename_i heq
    cases heq
    exact absurd h (by decide)
  · rfl

theorem mem_splitSign (hc : c ∈ s) : c = '-' ∨ c = '+' ∨ c ∈ (splitSign s).2 := by
  unfold splitSign
  split
  · exact (List.mem_cons.1 hc).imp_right .inr
  · exact .inr (List.mem_cons.1 hc)
  · exact .inr (.inr hc)

theorem mem_of_ungroupAfter? {after : Bool} {plain : List Char}
    (h : ungroupAfter? after s = some plain) : ∀ c ∈ s, isDigit c = true ∨ c = '_' := by
  induction s generalizing after plain with
  | nil => exact fun c hc => absurd hc List.not_mem_nil
  | cons first rest ih =>
    rw [ungroupAfter?] at h
    split at h
    · rename_i hdigit
      obtain ⟨inner, hinner, -⟩ := Option.map_eq_some_iff.1 h
      exact List.forall_mem_cons.2 ⟨.inl hdigit, ih hinner⟩
    · split at h
      · rename_i hlow
        rw [Bool.and_eq_true, beq_iff_eq] at hlow
        exact List.forall_mem_cons.2 ⟨.inr hlow.1, ih h⟩
      · cases h

/-- The characters of a whole number; it has no dot. -/
theorem isNumberChar_of_integerLiteral? {n : Int} (h : integerLiteral? s = some n) (hc : c ∈ s) :
    IsNumberChar c ∧ c ≠ '.' := by
  obtain ⟨plain, hplain, -⟩ := Option.bind_eq_some_iff.1 h
  rcases (standsAlone_trimNumberBlanks s).mem hc with hblank | hc
  · exact ⟨.inl hblank, (not_isDigit_of_isBlank (isBlank_of_isNumberBlank hblank)).2⟩
  · rcases mem_splitSign hc with rfl | rfl | hc
    · exact ⟨.inr (.inr (.inr (by decide))), by decide⟩
    · exact ⟨.inr (.inr (.inr (by decide))), by decide⟩
    · rcases mem_of_ungroupAfter? hplain c hc with hdigit | rfl
      · refine ⟨.inr (.inl hdigit), ?_⟩
        rintro rfl
        exact absurd hdigit (by decide)
      · exact ⟨.inr (.inr (.inl rfl)), by decide⟩

/-- Digits alone are the whole number they stand for, unless there are too many of them. -/
theorem integerLiteral?_of_digits (h : StandsAlone digits s) (hdigits : IsDigitText digits) :
    integerLiteral? s = (readDigits? digits).map (fun n => (n : Int)) := by
  have htrim := h.trimNumberBlanks_eq (WritesNumber.whole hdigits).isTrimmed
  obtain ⟨first, rest, rfl⟩ := List.exists_cons_of_ne_nil hdigits.1
  have hsign : splitSign (first :: rest) = (false, first :: rest) :=
    splitSign_of_isDigit (hdigits.2 first List.mem_cons_self)
  unfold integerLiteral?
  rw [htrim, hsign]
  simp only [ungroupDigits?_eq_self hdigits.1 hdigits.2, Option.bind_eq_bind, Option.bind_some]
  cases readDigits? (first :: rest) <;> rfl

/-- A number with a dot is no whole one. -/
theorem integerLiteral?_of_dot (hdot : '.' ∈ s) : integerLiteral? s = none := by
  cases h : integerLiteral? s with
  | none => rfl
  | some n => exact absurd rfl (isNumberChar_of_integerLiteral? h hdot).2

end Text

/-! ### Floating point numbers -/

namespace Binary64

theorem asciiDigits_append (s t : List Char) :
    asciiDigits (s ++ t) = asciiDigits s ++ asciiDigits t := List.map_append

theorem mem_asciiDigits (hc : c ∈ s) (h : isDigit c = false) : c ∈ asciiDigits s := by
  refine List.mem_map.2 ⟨c, hc, ?_⟩
  rw [isDigit, Option.isSome_eq_false_iff, Option.isNone_iff_eq_none] at h
  rw [h]

theorem isDigit_ofNat {value : Nat} (h : digitValue? c = some value) :
    (Char.ofNat (48 + value)).isDigit = true := by
  have hall : ∀ value < 10, (Char.ofNat (48 + value)).isDigit = true := by decide
  exact hall value (digitValue_lt h)

/-- A digit of any script becomes one of ASCII. -/
theorem exists_isDigit_mem_asciiDigits (hc : c ∈ s) (h : isDigit c = true) :
    ∃ d ∈ asciiDigits s, d.isDigit = true := by
  obtain ⟨value, hvalue⟩ := Option.isSome_iff_exists.1 h
  exact ⟨_, List.mem_map.2 ⟨c, hc, by rw [hvalue]⟩, isDigit_ofNat hvalue⟩

theorem isNumeral_asciiDigits (h : IsDigitText digits) : IsNumeral (asciiDigits digits) := by
  refine ⟨fun hnil => h.1 (List.map_eq_nil_iff.1 hnil), fun d hd => ?_⟩
  obtain ⟨c, hc, rfl⟩ := List.mem_map.1 hd
  obtain ⟨value, hvalue⟩ := Option.isSome_iff_exists.1 (h.2 c hc)
  rw [hvalue]
  exact isDigit_ofNat hvalue

/-! ### Low lines -/

theorem mem_of_ungrouped? {after : Bool} {plain : List Char} (h : ungrouped? after s = some plain) :
    ∀ c ∈ s, c = '_' ∨ c ∈ plain := by
  fun_induction ungrouped? after s generalizing plain with
  | case1 => exact fun c hc => absurd hc List.not_mem_nil
  | case2 _ rest _ ih => exact List.forall_mem_cons.2 ⟨.inl rfl, ih h⟩
  | case3 => cases h
  | case4 _ first rest _ ih =>
    obtain ⟨inner, hinner, rfl⟩ := Option.map_eq_some_iff.1 h
    exact List.forall_mem_cons.2 ⟨.inr List.mem_cons_self,
      fun c hc => (ih hinner c hc).imp_right (List.mem_cons_of_mem _)⟩

theorem ungrouped?_eq_self {after : Bool} (h : '_' ∉ s) : ungrouped? after s = some s := by
  induction s generalizing after with
  | nil => rfl
  | cons first rest ih =>
    rw [ungrouped?]
    · rw [ih fun hlow => h (List.mem_cons_of_mem _ hlow)]
      rfl
    · rintro rfl
      exact h List.mem_cons_self

/-! ### Decimal numbers -/

/-- The characters of an exponent. -/
theorem mem_of_exponent? {e : Int} (h : exponent? s = some e) :
    ∀ c ∈ s, c.isDigit = true ∨ c ∈ decimalMarks := by
  cases s with
  | nil => exact fun c hc => absurd hc List.not_mem_nil
  | cons first rest =>
    rw [exponent?] at h
    simp only at h
    split at h
    · rename_i hparts
      simp only [Bool.and_eq_true, Bool.or_eq_true, beq_iff_eq, List.all_eq_true] at hparts
      obtain ⟨⟨hletter, -⟩, hdigits⟩ := hparts
      refine List.forall_mem_cons.2 ⟨?_, fun c hc => ?_⟩
      · rcases hletter with rfl | rfl
        · exact .inr (by decide)
        · exact .inr (by decide)
      · rcases mem_splitSign hc with rfl | rfl | hc
        · exact .inr (by decide)
        · exact .inr (by decide)
        · exact .inl (hdigits c hc)
    · cases h

/-- The characters of a decimal number. -/
theorem mem_of_decimal? {x : Binary64} (h : decimal? s = some x) :
    ∀ c ∈ s, c.isDigit = true ∨ c ∈ decimalMarks := by
  have hs : s.takeWhile Char.isDigit ++ s.dropWhile Char.isDigit = s :=
    List.takeWhile_append_dropWhile
  have hdigit {t : List Char} : ∀ c ∈ t.takeWhile Char.isDigit,
      c.isDigit = true ∨ c ∈ decimalMarks :=
    fun c hc => .inl (List.mem_takeWhile_imp hc)
  have hdot : '.'.isDigit = true ∨ '.' ∈ decimalMarks := .inr (by decide)
  unfold decimal? at h
  simp only at h
  rw [← hs]
  refine List.forall_mem_append.2 ⟨hdigit, ?_⟩
  split at h
  · rename_i rest hrest
    rw [hrest]
    split at h
    · cases h
    · obtain ⟨e, he, -⟩ := Option.bind_eq_some_iff.1 h
      refine List.forall_mem_cons.2 ⟨hdot, ?_⟩
      rw [← List.takeWhile_append_dropWhile (p := Char.isDigit) (l := rest)]
      exact List.forall_mem_append.2 ⟨hdigit, mem_of_exponent? he⟩
  · split at h
    · cases h
    · obtain ⟨e, he, -⟩ := Option.bind_eq_some_iff.1 h
      exact mem_of_exponent? he

theorem exists_decimal?_whole (h : IsNumeral s) : ∃ x, decimal? s = some x := by
  have htake : s.takeWhile Char.isDigit = s := List.takeWhile_eq_self_iff.2 h.2
  have hdrop : s.dropWhile Char.isDigit = [] := List.dropWhile_eq_nil_iff.2 h.2
  unfold decimal?
  simp only [htake, hdrop, List.isEmpty_eq_false_iff.2 h.1]
  exact ⟨_, rfl⟩

theorem exists_decimal?_fraction {decimals : List Char} (h : IsNumeral s)
    (h' : IsNumeral decimals) : ∃ x, decimal? (s ++ '.' :: decimals) = some x := by
  have hdot : ∀ c, ('.' :: decimals).head? = some c → c.isDigit = false := by
    rintro c hc
    cases hc
    decide
  have htake : decimals.takeWhile Char.isDigit = decimals := List.takeWhile_eq_self_iff.2 h'.2
  have hdrop : decimals.dropWhile Char.isDigit = [] := List.dropWhile_eq_nil_iff.2 h'.2
  unfold decimal?
  simp only [takeWhile_append_of_head h.2 hdot, dropWhile_append_of_head h.2 hdot, htake, hdrop,
    List.isEmpty_eq_false_iff.2 h.1]
  exact ⟨_, rfl⟩

/-- A number is a decimal number in the digits of ASCII. -/
theorem exists_decimal?_asciiDigits (h : WritesNumber number v) :
    ∃ x, decimal? (asciiDigits number) = some x := by
  cases h with
  | whole h => exact exists_decimal?_whole (isNumeral_asciiDigits h)
  | fraction h h' =>
    rw [asciiDigits_append]
    exact exists_decimal?_fraction (isNumeral_asciiDigits h) (isNumeral_asciiDigits h')

/-! ### Literals -/

/-- Words have no digits. -/
theorem word?_eq_none (hd : d ∈ s) (hdigit : d.isDigit = true) : word? s = none := by
  have hall : (tenDigits.all fun d => d.toLower = d ∧ d ∉ "inf".toList ∧ d ∉ "infinity".toList ∧
      d ∉ "nan".toList) = true := by
    decide +kernel
  obtain ⟨hlower, hinf, hinfinity, hnan⟩ :=
    of_decide_eq_true (List.all_eq_true.1 hall d (mem_tenDigits hdigit))
  have hmem : d ∈ s.map Char.toLower := List.mem_map.2 ⟨d, hd, hlower⟩
  have hne {word : List Char} (hword : d ∉ word) : s.map Char.toLower ≠ word := by
    rintro rfl
    exact hword hmem
  unfold word?
  simp only [hne hinf, hne hinfinity, hne hnan, decide_false, Bool.or_self, Bool.false_eq_true,
    if_false]

/-- **A number that stands alone is a floating point number.** -/
theorem exists_literal?_of_writesNumber (h : StandsAlone number s)
    (hnumber : WritesNumber number v) : ∃ x, literal? s = some x := by
  obtain ⟨x, hx⟩ := exists_decimal?_asciiDigits hnumber
  have hlow : '_' ∉ asciiDigits number := by
    intro hmem
    rcases mem_of_decimal? hx _ hmem with hdigit | hmark
    · exact absurd hdigit (by decide)
    · exact absurd hmark (by decide)
  obtain ⟨first, rest, hfirst, hdigit⟩ :
      ∃ first rest, asciiDigits number = first :: rest ∧ first.isDigit = true := by
    obtain ⟨c, rest, rfl, hc⟩ := hnumber.exists_cons
    obtain ⟨value, hvalue⟩ := Option.isSome_iff_exists.1 hc
    exact ⟨_, _, by rw [asciiDigits, List.map_cons, hvalue], isDigit_ofNat hvalue⟩
  have hsign : splitSign (first :: rest) = (false, first :: rest) :=
    splitSign_of_isDigit (by rw [isDigit, digitValue_ascii hdigit]; rfl)
  have hword : word? (first :: rest) = none := word?_eq_none List.mem_cons_self hdigit
  unfold literal?
  rw [h.trimNumberBlanks_eq hnumber.isTrimmed, ungrouped?_eq_self hlow, hfirst]
  rw [hfirst] at hx
  simp only [Option.bind_eq_bind, Option.bind_some, hsign, hword, hx]
  exact ⟨_, rfl⟩

/-- **The characters of a floating point number**, if there is a digit among them. -/
theorem isNumberChar_of_literal? {x : Binary64} (h : literal? s = some x) (hd : d ∈ s)
    (hdigit : isDigit d = true) (hc : c ∈ s) : IsNumberChar c := by
  obtain ⟨plain, hplain, h⟩ := Option.bind_eq_some_iff.1 h
  have halone := standsAlone_trimNumberBlanks s
  have hsplit {c : Char} (hc : c ∈ plain) := mem_splitSign hc
  generalize splitSign plain = signed at h hsplit
  obtain ⟨negative, unsigned⟩ := signed
  obtain ⟨y, hy, -⟩ := Option.bind_eq_some_iff.1 h
  -- the digit comes through to where the words are, and there are none with digits
  have hword : word? unsigned = none := by
    have hblank : ¬ isNumberBlank d = true := by
      simp [not_isNumberBlank (not_isBlank_of_anyDigit hdigit)]
    obtain ⟨e, he, hedigit⟩ :=
      exists_isDigit_mem_asciiDigits ((halone.mem hd).resolve_left hblank) hdigit
    have hne {mark : Char} (hmark : mark.isDigit = false) : e ≠ mark := by
      rintro rfl
      rw [hmark] at hedigit
      cases hedigit
    have hin := (mem_of_ungrouped? hplain e he).resolve_left (hne (by decide))
    have hin := ((hsplit hin).resolve_left (hne (by decide))).resolve_left (hne (by decide))
    exact word?_eq_none hin hedigit
  have hdecimal : decimal? unsigned = some y := by
    rwa [hword] at hy
  by_cases hcdigit : isDigit c = true
  · exact .inr (.inl hcdigit)
  · rcases halone.mem hc with hblank | hc
    · exact .inl hblank
    · rcases mem_of_ungrouped? hplain c
        (mem_asciiDigits hc (Bool.eq_false_of_not_eq_true hcdigit)) with rfl | hc
      · exact .inr (.inr (.inl rfl))
      · rcases hsplit hc with rfl | rfl | hc
        · exact .inr (.inr (.inr (by decide)))
        · exact .inr (.inr (.inr (by decide)))
        · rcases mem_of_decimal? hdecimal c hc with hascii | hmark
          · exact absurd (by rw [isDigit, digitValue_ascii hascii]; rfl) hcdigit
          · exact .inr (.inr (.inr hmark))

end Binary64

/-! ### Sizes that are numbers -/

namespace ByteSize

variable {unit : List Char} {factor : Nat}

theorem isNumberBlank_of_isNumberChar (h : IsNumberChar c) (hblank : isBlank c = true) :
    isNumberBlank c = true := by
  have hall : (decimalMarks.all fun mark => isBlank mark = false) = true := by decide
  rcases h with h | hdigit | rfl | hmark
  · exact h
  · rw [not_isBlank_of_anyDigit hdigit] at hblank
    cases hblank
  · exact absurd hblank (by decide)
  · rw [of_decide_eq_true (List.all_eq_true.1 hall c hmark)] at hblank
    cases hblank

/-- Letters of units do not stand in numbers. -/
theorem IsUnitWord.not_isNumberChar (h : IsUnitWord (Text.lowerText unit) factor) (hc : c ∈ unit) :
    ¬ IsNumberChar c := by
  have hall : (('_' :: decimalMarks).all fun mark => mark.toNat < 128 ∧
      ∀ entry ∈ units, mark.toLower ∉ entry.1.toList) = true := by
    decide +kernel
  have hmark : c ∉ '_' :: decimalMarks := by
    intro hmark
    obtain ⟨hascii, hnone⟩ := of_decide_eq_true (List.all_eq_true.1 hall c hmark)
    have hnot := hnone _ h.mem_units
    rw [String.toList_ofList] at hnot
    exact hnot (toLower_mem_lowerText hc hascii)
  obtain ⟨hblank, hdigit, -⟩ := h.letters c hc
  rintro (hnumber | hnumber | hnumber)
  · rw [not_isNumberBlank hblank] at hnumber
    cases hnumber
  · rw [hdigit] at hnumber
    cases hnumber
  · exact hmark (List.mem_cons.2 hnumber)

theorem Writes.exists_isDigit (h : Writes s v) : ∃ d ∈ s, isDigit d = true := by
  cases h with
  | intro hbefore hnumber hbetween hunit hafter =>
    obtain ⟨c, rest, rfl, hc⟩ := hnumber.exists_cons
    exact ⟨c, by simp, hc⟩

/-- **A size without other characters than those of numbers is a number that stands alone.** -/
theorem Writes.standsAlone (h : Writes s v) (hchars : ∀ c ∈ s, IsNumberChar c) :
    ∃ number, StandsAlone number s ∧ WritesNumber number v := by
  cases h with
  | @intro before number between unit after a factor hbefore hnumber hbetween hunit hafter =>
    -- a letter of a unit would be no character of numbers
    have hempty : unit = [] := by
      refine List.eq_nil_iff_forall_not_mem.2 fun c hc => ?_
      exact hunit.not_isNumberChar hc (hchars c (by simp [hc]))
    subst hempty
    have hfactor : factor = 1 := by
      have hone : unitFactor? [] = some 1 := by decide +kernel
      rw [← unitFactor?_eq_some_iff, hone] at hunit
      exact (Option.some.inj hunit).symm
    rw [hfactor, Nat.cast_one, mul_one]
    have hblank {c : Char} (hc : c ∈ before ∨ c ∈ between ∨ c ∈ after) :
        isNumberBlank c = true := by
      refine isNumberBlank_of_isNumberChar (hchars c ?_) ?_
      · rcases hc with hc | hc | hc <;> simp [hc]
      · rcases hc with hc | hc | hc
        · exact hbefore c hc
        · exact hbetween c hc
        · exact hafter c hc
    refine ⟨number, ⟨before, between ++ after, fun c hc => hblank (.inl hc), fun c hc => ?_, ?_⟩,
      hnumber⟩
    · exact hblank (.inr (List.mem_append.1 hc))
    · simp

end ByteSize

end FileSieve
