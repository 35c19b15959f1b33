import FileSieve.Proofs.Calendar.DateText

/-!
# Dates and midnights

Dates follow each other by year, month and day, and so do their numbers. In a zone whose clock is
never put forward over a midnight, every date starts when the clock shows its midnight.

* `Date.lt_iff_dayNumber_lt`: one date is before another when its number is.
* `Zone.wallAt_secondAt_midnight`: a midnight that is not skipped is shown by the clock.
* `Zone.exists_secondOf?_of_midnight?`: the midnight of a date is the second of that.
-/

namespace FileSieve.Calendar

/-! ### The order of dates -/

namespace Date

/-- One date is before another: its year is earlier, or in the same year its month, or in the same
month its day. -/
instance : LT Date where
  lt a b := a.year < b.year ∨
    a.year = b.year ∧ (a.month < b.month ∨ a.month = b.month ∧ a.day < b.day)

/-- One date is up to another if it is not after it. -/
instance : LE Date where
  le a b := ¬ b < a

variable {a b d : Date}

theorem lt_iff : a < b ↔ a.year < b.year ∨
    a.year = b.year ∧ (a.month < b.month ∨ a.month = b.month ∧ a.day < b.day) := Iff.rfl

theorem le_iff : a ≤ b ↔ ¬ b < a := Iff.rfl

instance (a b : Date) : Decidable (a < b) := decidable_of_iff _ lt_iff.symm

instance (a b : Date) : Decidable (a ≤ b) := decidable_of_iff _ le_iff.symm

theorem lt_or_eq_or_gt (a b : Date) : a < b ∨ a = b ∨ b < a := by
  rw [lt_iff, lt_iff]
  by_cases h : a.year = b.year ∧ a.month = b.month ∧ a.day = b.day
  · obtain ⟨hyear, hmonth, hday⟩ := h
    cases a
    cases b
    cases hyear
    cases hmonth
    cases hday
    exact .inr (.inl rfl)
  · omega

theorem dayNumber_lt_of_lt (ha : a.exists? = true) (hb : b.exists? = true) (h : a < b) :
    a.dayNumber < b.dayNumber := by
  obtain ⟨ha1, ha12, hafirst, halast⟩ := exists_iff.1 ha
  obtain ⟨hb1, hb12, hbfirst, hblast⟩ := exists_iff.1 hb
  rcases h with hyear | ⟨hyear, hmonth | ⟨hmonth, hday⟩⟩
  · -- the earlier year is over before the later date
    have hend := (day_in_year ha1 ha12 hafirst halast).2
    have hstart := (day_in_year hb1 hb12 hbfirst hblast).1
    have hbetween := daysBeforeYear_mono (Int.add_one_le_of_lt hyear)
    rw [daysBeforeYear_succ] at hbetween
    simp only [dayNumber]
    omega
  · -- and so is the earlier month
    have hbetween := daysBeforeMonth_succ_le (isLeap b.year) ha1 hmonth hb12
    simp only [dayNumber, monthLength, hyear] at *
    omega
  · simp only [dayNumber, hyear, hmonth]
    omega

/-- **One date is before another when its number is.** -/
theorem lt_iff_dayNumber_lt (ha : a.exists? = true) (hb : b.exists? = true) :
    a < b ↔ a.dayNumber < b.dayNumber := by
  refine ⟨dayNumber_lt_of_lt ha hb, fun h => ?_⟩
  rcases lt_or_eq_or_gt a b with hlt | rfl | hgt
  · exact hlt
  · omega
  · have := dayNumber_lt_of_lt hb ha hgt
    omega

theorem le_iff_dayNumber_le (ha : a.exists? = true) (hb : b.exists? = true) :
    a ≤ b ↔ a.dayNumber ≤ b.dayNumber := by
  rw [le_iff, lt_iff_dayNumber_lt hb ha, Int.not_lt]

theorem eq_iff_dayNumber_eq (ha : a.exists? = true) (hb : b.exists? = true) :
    a = b ↔ a.dayNumber = b.dayNumber := by
  refine ⟨fun h => h ▸ rfl, fun h => ?_⟩
  rw [← ofDayNumber_dayNumber ha, h, ofDayNumber_dayNumber hb]

/-- The last date that a clock can show. -/
def last : Date := ⟨9999, 12, 31⟩

/-- After any other valid date there is another day that a clock can show. -/
theorem inRange_tomorrow (hd : d.isValid = true) (hlast : d ≠ last) :
    Zone.inRange ((d.dayNumber + 1) * secondsPerDay) = true := by
  obtain ⟨hlow, hhigh, hexists⟩ := isValid_iff.1 hd
  obtain ⟨h1, h12, hfirst, -⟩ := exists_iff.1 hexists
  have hday := day_le hexists
  have hbefore : d.dayNumber < last.dayNumber := by
    refine (lt_iff_dayNumber_lt hexists (by decide)).1 ?_
    rcases lt_or_eq_or_gt d last with hlt | heq | hgt
    · exact hlt
    · exact absurd heq hlast
    · rw [lt_iff] at hgt
      simp only [last] at hgt
      omega
  have hstart : (Date.mk 1 1 1).dayNumber ≤ d.dayNumber := by
    refine (le_iff_dayNumber_le (by decide) hexists).1 ?_
    rw [le_iff, lt_iff]
    simp only
    omega
  have hone : (Date.mk 1 1 1).dayNumber = -719162 := by decide
  have hend : last.dayNumber = 2932896 := by decide
  rw [Zone.inRange_iff]
  simp only [secondsPerDay]
  omega

end Date

/-! ### Midnights that are shown -/

namespace Zone

variable {zone : Zone} {d : Date} {start : Instant} {day : Int}

/-- The clock is never put forward over a midnight. -/
structure ShowsMidnights (zone : Zone) : Prop where
  steady : zone.IsSteady
  starts : ∀ summer, zone.summer = some summer → summer.starts.second ≠ 0

theorem showsMidnights_of_fixed (h : zone.summer = none) : zone.ShowsMidnights where
  steady := IsSupported.isSteady (.inl h)
  starts summer hsummer := by
    rw [h] at hsummer
    cases hsummer

theorem showsMidnights_of_northern (h : ofText? northernText = some zone) :
    zone.ShowsMidnights where
  steady := IsSupported.isSteady (.inr (.inl h))
  starts summer hsummer := by
    rw [ofText?_northernText] at h
    cases h
    cases hsummer
    decide

/-- **A midnight that is not skipped is shown by the clock.** -/
theorem wallAt_secondAt_midnight (h : zone.ShowsMidnights) :
    zone.wallAt (zone.secondAt (day * secondsPerDay)) = day * secondsPerDay := by
  rcases secondAt_first_cases h.steady (day * secondsPerDay) with
    hshown | ⟨summer, hsummer, -, hlater, hearlier⟩
  · exact hshown
  · -- a gap over the midnight would begin on the day before, or at the midnight itself
    have hsteady := h.steady summer hsummer
    have hahead := hsteady.ahead
    have hforward := hsteady.forward
    have hnonneg := hsteady.starts.second_nonneg
    have hstarts := h.starts summer hsummer
    obtain ⟨t, hlow, hhigh, ht⟩ := hsteady.exists_start (by omega) hearlier hlater
    simp only [secondsPerDay] at *
    omega

/-- **The midnight of a date is the second at which the clock shows it.** -/
theorem exists_secondOf?_of_midnight? (hzone : zone.ShowsMidnights)
    (h : zone.midnight? d = some start) :
    ∃ s, zone.secondOf? (d.dayNumber * secondsPerDay) = some s ∧ start = .ofSecond s ∧
      zone.wallAt s = d.dayNumber * secondsPerDay ∧
      inRange (d.dayNumber * secondsPerDay) = true := by
  obtain ⟨s, hs, h⟩ := Option.bind_eq_some_iff.1 h
  have hshown : zone.wallAt s = d.dayNumber * secondsPerDay := by
    rw [(secondOf?_eq_some hs).1]
    exact wallAt_secondAt_midnight hzone
  -- the offset at the midnight leads back to it
  have hback : d.dayNumber * secondsPerDay - zone.offsetAt s = s := by
    rw [← hshown, wallAt]
    omega
  simp only [hback, hshown] at h
  split at h
  · rename_i hrange
    cases h
    exact ⟨s, hs, rfl, hshown, (Bool.and_eq_true_iff.1 hrange).2⟩
  · cases h

/-- What the clock shows at a second has a date. -/
theorem localDate?_of_wallAt {s : Int} (hd : d.exists? = true)
    (hshown : zone.wallAt s = d.dayNumber * secondsPerDay)
    (hrange : inRange (d.dayNumber * secondsPerDay) = true) :
    (Instant.ofSecond s).localDate? zone = some d := by
  unfold Instant.localDate?
  rw [Instant.second_ofSecond, wallAt?_of_inRange (by rw [hshown]; exact hrange), hshown]
  change some (Date.ofDayNumber (d.dayNumber * secondsPerDay / secondsPerDay)) = _
  rw [Int.mul_ediv_cancel _ (by decide), Date.ofDayNumber_dayNumber hd]

end Zone

end FileSieve.Calendar
