import FileSieve.Proofs.Calendar.Transitions
import FileSieve.Proofs.Text.Numeral

/-!
# Dates as they are written

A date is written with four digits for the year and two for the month and the day, and it is found
again from that text. At a fixed offset, so is the midnight with which it starts.

* `Date.ofText?_text`: a date is read from its text.
* `exists_parts_of_ofText?`: a text that is read as a date has three parts between dashes.
* `Zone.midnight?_localDate?`: at a fixed offset, a midnight is that of its own date.
* `Zone.midnight?_nextDay?`: at a fixed offset, a day after a midnight there is another one.
-/

namespace FileSieve.Calendar

open Text

/-! ### Dates -/

theorem month?_padded {month : Nat} (h1 : 1 ≤ month) (h12 : month ≤ 12) (rest : List Char) :
    month? (padded 2 month ++ '-' :: rest) = some (month, '-' :: rest) := by
  have hall : ∀ m ∈ [1, 2, 3, 4, 5, 6, 7, 8, 9, 10, 11, 12],
      month? (padded 2 m ++ '-' :: rest) = some (m, '-' :: rest) := by
    simp only [List.forall_mem_cons]
    exact ⟨rfl, rfl, rfl, rfl, rfl, rfl, rfl, rfl, rfl, rfl, rfl, rfl, by simp⟩
  exact hall month (month_mem h1 h12)

theorem day?_padded {day : Nat} (h1 : 1 ≤ day) (h31 : day ≤ 31) :
    day? (padded 2 day) = some day := by
  have hall : ∀ d ∈ List.range 32, 1 ≤ d → day? (padded 2 d) = some d := by decide
  exact hall day (List.mem_range.2 (by omega)) h1

theorem Date.day_le {d : Date} (h : d.exists? = true) : d.day ≤ 31 := by
  obtain ⟨h1, h12, -, hlast⟩ := exists_iff.1 h
  have hall : ∀ m ∈ [1, 2, 3, 4, 5, 6, 7, 8, 9, 10, 11, 12],
      monthLength (isLeap d.year) m ≤ 31 := by
    cases isLeap d.year <;> decide
  exact Int.le_trans hlast (hall d.month (month_mem h1 h12))

theorem Date.isValid_iff {d : Date} :
    d.isValid = true ↔ 1 ≤ d.year ∧ d.year ≤ 9999 ∧ d.exists? = true := by
  unfold isValid
  rw [Bool.and_eq_true, Bool.and_eq_true, and_assoc]
  exact and_congr decide_eq_true_iff (and_congr decide_eq_true_iff Iff.rfl)

theorem Date.exists_of_isValid {d : Date} (h : d.isValid = true) : d.exists? = true :=
  (isValid_iff.1 h).2.2

/-- **A date is read from its text.** -/
theorem Date.ofText?_text {d : Date} (h : d.isValid = true) : Date.ofText? d.text = some d := by
  obtain ⟨hlow, hhigh, hexists⟩ := isValid_iff.1 h
  obtain ⟨h1, h12, hday, -⟩ := exists_iff.1 hexists
  have hlast := day_le hexists
  have hlength : (padded 4 d.year.toNat).length = 4 :=
    length_padded (by decide) (show d.year.toNat < 10000 by omega)
  have hdigits : (padded 4 d.year.toNat).all isDigit = true :=
    List.all_eq_true.2 (isNumeral_padded 4 _).isDigit
  have hyear : ((digitsValue (padded 4 d.year.toNat) : Nat) : Int) = d.year := by
    rw [digitsValue_padded]; omega
  have hnumber : ((d.day.toNat : Nat) : Int) = d.day := by omega
  have htext : d.text = padded 4 d.year.toNat ++
      '-' :: (padded 2 d.month ++ '-' :: padded 2 d.day.toNat) := by
    rw [text, List.append_assoc, List.cons_append]
  unfold ofText?
  simp only [htext, List.take_left' hlength, List.drop_left' hlength, hlength, hdigits, and_self,
    if_true]
  -- between the parts there is one dash
  have hstart (s : List Char) : dropStart? ['-'] ('-' :: s) = some s := dropStart?_append
  rw [hstart]
  change (month? (padded 2 d.month ++ '-' :: padded 2 d.day.toNat)).bind _ = _
  rw [month?_padded h1 h12, Option.bind_some, hstart]
  change (day? (padded 2 d.day.toNat)).bind _ = _
  rw [day?_padded (by omega) (by omega), Option.bind_some]
  simp only [hyear, hnumber]
  rw [if_pos h]

/-! ### Parts of a text -/

section Parts

variable {s rest : List Char} {c : Char} {month day : Nat} {d : Date}

theorem ne_dash_of_isDigit (h : isDigit c = true) : c ≠ '-' := by
  rintro rfl
  revert h
  decide

theorem ne_dash_of_between (h : '1' ≤ c ∧ c ≤ '9') : c ≠ '-' := by
  rintro rfl
  exact absurd h.1 (by decide)

theorem month?_eq_some (h : month? s = some (month, rest)) :
    ∃ digits, s = digits ++ rest ∧ '-' ∉ digits := by
  unfold month? at h
  split at h
  · cases h
    exact ⟨['1', '0'], rfl, by decide⟩
  · cases h
    exact ⟨['1', '1'], rfl, by decide⟩
  · cases h
    exact ⟨['1', '2'], rfl, by decide⟩
  · rename_i c _
    split at h
    · rename_i hc
      cases h
      exact ⟨['0', c], rfl, by simp [(ne_dash_of_between hc).symm]⟩
    · cases h
  · rename_i c _ _ _ _ _
    split at h
    · rename_i hc
      cases h
      exact ⟨[c], rfl, by simp [(ne_dash_of_between hc).symm]⟩
    · cases h
  · cases h

theorem ne_dash_of_nonzeroDigit? (h : nonzeroDigit? c = some day) : c ≠ '-' := by
  unfold nonzeroDigit? at h
  split at h
  · rename_i hc
    exact ne_dash_of_between hc
  · cases h

theorem not_mem_of_day? (h : day? s = some day) : '-' ∉ s := by
  have hdigit {c : Char} {f : Nat → Nat} (h : f <$> digitValue? c = some day) : c ≠ '-' := by
    obtain ⟨n, hn, -⟩ := Option.map_eq_some_iff.1 h
    exact ne_dash_of_isDigit (Option.isSome_iff_exists.2 ⟨n, hn⟩)
  unfold day? at h
  split at h
  · simp [(ne_dash_of_nonzeroDigit? h).symm]
  · rename_i tens c
    split at h
    · rename_i htens
      rcases htens with rfl | rfl <;> simp [(ne_dash_of_nonzeroDigit? h).symm]
    · split at h
      · rename_i htens
        simp [htens, (hdigit h).symm]
      · split at h
        · rename_i htens
          simp [htens, (hdigit h).symm]
        · split at h
          · rename_i hday
            obtain ⟨rfl, rfl | rfl⟩ := hday <;> decide
          · cases h
  · cases h

/-- The text of a date has a year of digits, a month and a day, with a dash after the first two. -/
theorem exists_parts_of_ofText? (h : Date.ofText? s = some d) :
    ∃ c year month day, s = c :: year ++ '-' :: (month ++ '-' :: day) ∧ isDigit c = true ∧
      '-' ∉ c :: year ∧ '-' ∉ month ∧ '-' ∉ day := by
  unfold Date.ofText? at h
  simp only at h
  split at h
  · rename_i hyear
    obtain ⟨rest, hrest, h⟩ := Option.bind_eq_some_iff.1 h
    obtain ⟨⟨month, afterMonth⟩, hmonth, h⟩ := Option.bind_eq_some_iff.1 h
    obtain ⟨dayText, hdayText, h⟩ := Option.bind_eq_some_iff.1 h
    obtain ⟨day, hday, -⟩ := Option.bind_eq_some_iff.1 h
    obtain ⟨digits, rfl, hdigits⟩ := month?_eq_some hmonth
    rw [dropStart?_eq_some_iff] at hrest hdayText
    change afterMonth = ['-'] ++ dayText at hdayText
    obtain ⟨c, year, hsome⟩ := List.exists_cons_of_length_eq_add_one hyear.1
    have hall : ∀ c ∈ s.take 4, isDigit c = true := List.all_eq_true.1 hyear.2
    refine ⟨c, year, digits, dayText, ?_, hall c (by rw [hsome]; exact List.mem_cons_self), ?_,
      hdigits, not_mem_of_day? hday⟩
    · calc
        s = s.take 4 ++ s.drop 4 := (List.take_append_drop 4 s).symm
        _ = c :: year ++ '-' :: (digits ++ '-' :: dayText) := by
          rw [hsome, hrest, hdayText]
          rfl
    · rw [← hsome]
      intro hdash
      exact ne_dash_of_isDigit (hall _ hdash) rfl
  · cases h

end Parts

/-! ### Midnights at a fixed offset -/

/-- A day that a clock can show has a valid date. -/
theorem isValid_ofDayNumber {wall : Int} (h : Zone.inRange wall = true) :
    (Date.ofDayNumber (wall / secondsPerDay)).isValid = true := by
  rw [Zone.inRange_iff] at h
  have hyear := yearOfDay_spec (wall / secondsPerDay - Date.firstDay)
  refine Date.isValid_iff.2 ⟨?_, ?_, Date.ofDayNumber_exists _⟩
  · change 1 ≤ yearOfDay (wall / secondsPerDay - Date.firstDay)
    by_contra hlow
    have := yearStart_le (show yearOfDay (wall / secondsPerDay - Date.firstDay) + 1 ≤ 1 by omega)
    have hfirst : daysBeforeYear 1 = 0 := by decide
    simp only [yearStart, hfirst, Date.firstDay, secondsPerDay] at *
    omega
  · change yearOfDay (wall / secondsPerDay - Date.firstDay) ≤ 9999
    by_contra hhigh
    have := yearStart_le
      (show 10000 ≤ yearOfDay (wall / secondsPerDay - Date.firstDay) by omega)
    have hlast : daysBeforeYear 10000 = 3652059 := by decide
    simp only [yearStart, hlast, Date.firstDay, secondsPerDay] at *
    omega

namespace Zone

variable {standard : Int} {zone : Zone} {d e : Date} {start stop : Instant}

/-- What is known about a midnight at a fixed offset: its second, and the clocks that were looked
at. -/
theorem midnight?_eq_some (h : midnight? ⟨standard, none⟩ d = some start) :
    start = .ofSecond (d.dayNumber * secondsPerDay - standard) ∧
      inRange (d.dayNumber * secondsPerDay + standard) = true ∧
      inRange (d.dayNumber * secondsPerDay) = true ∧
      inRange (d.dayNumber * secondsPerDay - standard) = true := by
  obtain ⟨near, hnear, h⟩ := Option.bind_eq_some_iff.1 h
  obtain ⟨-, hahead, hhere⟩ := secondOf?_eq_some hnear
  simp only [offsetAt_fixed, wallAt_fixed, Int.sub_add_cancel] at *
  split at h
  · rename_i hrange
    cases h
    exact ⟨rfl, hahead, hhere, (Bool.and_eq_true_iff.1 hrange).1⟩
  · cases h

/-- At a fixed offset, a midnight is that of its own date. -/
theorem midnight?_localDate? (hd : d.isValid = true) (h : midnight? ⟨standard, none⟩ d = some start)
    (he : start.localDate? ⟨standard, none⟩ = some e) :
    e.isValid = true ∧ midnight? ⟨standard, none⟩ e = some start := by
  obtain ⟨rfl, -⟩ := midnight?_eq_some h
  obtain ⟨rfl, -⟩ := localDate?_eq_some he
  have hdate : Date.ofDayNumber (dayAt ⟨standard, none⟩
      (d.dayNumber * secondsPerDay - standard)) = d := by
    rw [dayAt, wallAt_fixed, Int.sub_add_cancel, Int.mul_ediv_cancel _ (by decide)]
    exact Date.ofDayNumber_dayNumber (Date.isValid_iff.1 hd).2.2
  rw [hdate]
  exact ⟨hd, h⟩

/-- At a fixed offset, a day after a midnight there is another one. -/
theorem midnight?_nextDay? (hstandard : standard < secondsPerDay)
    (h : midnight? ⟨standard, none⟩ d = some start) (hnext : start.nextDay? = some stop)
    (he : stop.localDate? ⟨standard, none⟩ = some e) :
    e.isValid = true ∧ midnight? ⟨standard, none⟩ e = some stop := by
  obtain ⟨rfl, hahead, hhere, hbehind⟩ := midnight?_eq_some h
  unfold Instant.nextDay? at hnext
  simp only at hnext
  split at hnext
  · rename_i hrange
    cases hnext
    -- a day of 24 hours from one midnight to the next
    have hstop : (⟨(Instant.ofSecond (d.dayNumber * secondsPerDay - standard)).micros +
        secondsPerDay * Instant.perSecond⟩ : Instant) =
        .ofSecond ((d.dayNumber + 1) * secondsPerDay - standard) := by
      simp only [Instant.ofSecond, secondsPerDay, Instant.perSecond, Instant.mk.injEq]
      omega
    rw [hstop] at hrange he ⊢
    obtain ⟨rfl, hshown⟩ := localDate?_eq_some he
    rw [Instant.inRange, Instant.second_ofSecond] at hrange
    rw [wallAt_fixed, Int.sub_add_cancel] at hshown
    have hday : dayAt ⟨standard, none⟩ ((d.dayNumber + 1) * secondsPerDay - standard) =
        d.dayNumber + 1 := by
      rw [dayAt, wallAt_fixed, Int.sub_add_cancel, Int.mul_ediv_cancel _ (by decide)]
    have hvalid := isValid_ofDayNumber hshown
    rw [Int.mul_ediv_cancel _ (by decide)] at hvalid
    rw [hday]
    refine ⟨hvalid, ?_⟩
    have hnumber : (Date.ofDayNumber (d.dayNumber + 1)).dayNumber = d.dayNumber + 1 :=
      Date.dayNumber_ofDayNumber _
    rw [midnight?_fixed] <;> rw [hnumber]
    -- a day later the clock is still in range, as the range ends with a whole day
    · rw [inRange_iff] at *
      simp only [secondsPerDay] at *
      omega
    · exact hshown
    · rw [Int.add_mul, Int.one_mul, Int.add_sub_cancel]
      exact hhere
    · exact hrange
  · cases hnext

end Zone

end FileSieve.Calendar
