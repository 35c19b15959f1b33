/-!
# Calendar dates

Dates of the Gregorian calendar, carried on in both directions, and their day numbers. Day zero
is 1970-01-01.

* `yearOfDay_spec`: the year of a day is the one in which it falls.
* `dayNumber_ofDayNumber`: the day with a number has that number.
* `ofDayNumber_dayNumber`: a date is found again by its number.
-/

namespace FileSieve.Calendar

/-! ### Years and months -/

/-- Does the year have a 29th of February? -/
def isLeap (year : Int) : Bool :=
  year % 4 = 0 && (year % 100 ≠ 0 || year % 400 = 0)

/-- The number of days from 0001-01-01 to the first day of a year. -/
def daysBeforeYear (year : Int) : Int :=
  let y := year - 1
  365 * y + y / 4 - y / 100 + y / 400

/-- The number of days of a year before the first day of a month. -/
def daysBeforeMonth (leap : Bool) (month : Nat) : Int :=
  [0, 31, 59, 90, 120, 151, 181, 212, 243, 273, 304, 334].getD (month - 1) 365 +
    if leap && 2 < month then 1 else 0

/-- The number of days of a month. -/
def monthLength (leap : Bool) (month : Nat) : Int :=
  daysBeforeMonth leap (month + 1) - daysBeforeMonth leap month

/-! ### Dates -/

/-- A date of the calendar. -/
structure Date where
  /-- The year; 1 is the first year of the era. -/
  year : Int
  /-- The month, from 1 on. -/
  month : Nat
  /-- The day of the month, from 1 on. -/
  day : Int
  deriving DecidableEq, Repr

namespace Date

/-- Is there such a day in the calendar? -/
def exists? (d : Date) : Bool :=
  1 ≤ d.month && d.month ≤ 12 && 1 ≤ d.day && d.day ≤ monthLength (isLeap d.year) d.month

/-- The day number of 0001-01-01. -/
def firstDay : Int := -719162

/-- The first year that dates may have. -/
def firstYear : Int := 1

/-- The last year that dates may have. -/
def lastYear : Int := 9999

/-- Is it a date of the calendar, within the years that dates may have? -/
def isValid (d : Date) : Bool :=
  firstYear ≤ d.year && d.year ≤ lastYear && d.exists?

/-- The number of a date. -/
def dayNumber (d : Date) : Int :=
  firstDay + daysBeforeYear d.year + daysBeforeMonth (isLeap d.year) d.month + (d.day - 1)

end Date

/-- The year in which a day falls, counted from 0001-01-01. -/
def yearOfDay (n : Int) : Int :=
  let guess := n * 400 / 146097 + 1
  -- by the mean length of a year, the guess is at most one year off
  if n < daysBeforeYear guess then guess - 1
  else if daysBeforeYear (guess + 1) ≤ n then guess + 1
  else guess

/-- The month that holds a day of a year, counted from the first day. -/
def monthOfDay (leap : Bool) (n : Int) : Nat :=
  ([12, 11, 10, 9, 8, 7, 6, 5, 4, 3, 2].find? fun month =>
    daysBeforeMonth leap month ≤ n).getD 1

/-- The date with a number. -/
def Date.ofDayNumber (n : Int) : Date :=
  let n := n - firstDay
  let year := yearOfDay n
  let rest := n - daysBeforeYear year
  let month := monthOfDay (isLeap year) rest
  ⟨year, month, rest - daysBeforeMonth (isLeap year) month + 1⟩

/-- The day of the week of a day number; Monday is zero. -/
def weekday (n : Int) : Int := (n + 3) % 7

/-! ### Years -/

theorem sub_one_ediv {a b : Int} (hb : 0 < b) :
    (a - 1) / b = a / b - if a % b = 0 then 1 else 0 := by
  have hdiv := Int.mul_ediv_add_emod a b
  have hmod := Int.emod_nonneg a (Int.ne_of_gt hb)
  have hlt := Int.emod_lt_of_pos a hb
  split
  · rename_i h
    rw [Int.ediv_eq_iff_of_pos hb]
    rw [h] at hdiv
    rw [Int.sub_mul, Int.mul_comm]
    omega
  · rw [Int.sub_zero, Int.ediv_eq_iff_of_pos hb, Int.mul_comm]
    omega

theorem daysBeforeYear_succ (year : Int) :
    daysBeforeYear (year + 1) = daysBeforeYear year + if isLeap year then 366 else 365 := by
  have h : isLeap year = true ↔ year % 4 = 0 ∧ (year % 100 ≠ 0 ∨ year % 400 = 0) := by
    simp [isLeap]
  simp only [daysBeforeYear, Int.add_sub_cancel, sub_one_ediv (show (0 : Int) < 4 by decide),
    sub_one_ediv (show (0 : Int) < 100 by decide), sub_one_ediv (show (0 : Int) < 400 by decide), h]
  by_cases h4 : year % 4 = 0 <;> by_cases h100 : year % 100 = 0 <;>
    by_cases h400 : year % 400 = 0 <;> simp [h4, h100, h400] <;> omega

theorem daysBeforeYear_strictMono {a b : Int} (h : a < b) :
    daysBeforeYear a < daysBeforeYear b := by
  simp only [daysBeforeYear]
  omega

theorem daysBeforeYear_mono {a b : Int} (h : a ≤ b) : daysBeforeYear a ≤ daysBeforeYear b := by
  rcases Int.lt_or_eq_of_le h with h | rfl
  · exact Int.le_of_lt (daysBeforeYear_strictMono h)
  · exact Int.le_refl _

theorem yearOfDay_spec (n : Int) :
    daysBeforeYear (yearOfDay n) ≤ n ∧ n < daysBeforeYear (yearOfDay n + 1) := by
  unfold yearOfDay
  generalize hq : n * 400 / 146097 = q
  have hlow : 365 * q + q / 4 - q / 100 + q / 400 ≤ n + 2 := by omega
  have hhigh : n < 365 * (q + 2) + (q + 2) / 4 - (q + 2) / 100 + (q + 2) / 400 := by omega
  have h0 : daysBeforeYear (q + 1) = 365 * q + q / 4 - q / 100 + q / 400 := by
    simp only [daysBeforeYear, Int.add_sub_cancel]
  have h1 : daysBeforeYear (q + 1 + 1 + 1) =
      365 * (q + 2) + (q + 2) / 4 - (q + 2) / 100 + (q + 2) / 400 := by
    simp only [daysBeforeYear, show q + 1 + 1 + 1 - 1 = q + 2 by omega]
  have hback := daysBeforeYear_succ q
  by_cases ha : n < daysBeforeYear (q + 1)
  · simp only [if_pos ha, Int.add_sub_cancel]
    refine ⟨?_, ha⟩
    split at hback <;> omega
  · by_cases hb : daysBeforeYear (q + 1 + 1) ≤ n
    · simp only [if_neg ha, if_pos hb]
      exact ⟨hb, h1 ▸ hhigh⟩
    · simp only [if_neg ha, if_neg hb]
      exact ⟨Int.not_lt.1 ha, Int.not_le.1 hb⟩

theorem yearOfDay_eq {n year : Int} (hlow : daysBeforeYear year ≤ n)
    (hhigh : n < daysBeforeYear (year + 1)) : yearOfDay n = year := by
  obtain ⟨h1, h2⟩ := yearOfDay_spec n
  rcases Int.lt_trichotomy (yearOfDay n) year with h | h | h
  · have := daysBeforeYear_mono (Int.add_one_le_of_lt h)
    omega
  · exact h
  · have := daysBeforeYear_mono (Int.add_one_le_of_lt h)
    omega

/-! ### Months -/

theorem monthOfDay_spec {leap : Bool} {n : Int} (h0 : 0 ≤ n)
    (h1 : n < if leap then 366 else 365) :
    1 ≤ monthOfDay leap n ∧ monthOfDay leap n ≤ 12 ∧
      daysBeforeMonth leap (monthOfDay leap n) ≤ n ∧
      n < daysBeforeMonth leap (monthOfDay leap n + 1) := by
  cases leap
  all_goals
    simp only [monthOfDay, daysBeforeMonth, List.find?_cons, List.find?_nil]
    simp [List.getD]
    repeat' split
    all_goals simp_all

theorem month_mem {month : Nat} (h1 : 1 ≤ month) (h12 : month ≤ 12) :
    month ∈ [1, 2, 3, 4, 5, 6, 7, 8, 9, 10, 11, 12] := by
  simp only [List.mem_cons, List.not_mem_nil, or_false]
  omega

/-- A month is over before a later one. -/
theorem daysBeforeMonth_succ_le (leap : Bool) {a b : Nat} (ha : 1 ≤ a) (hab : a < b)
    (hb : b ≤ 12) : daysBeforeMonth leap (a + 1) ≤ daysBeforeMonth leap b := by
  have hall : ∀ a ∈ [1, 2, 3, 4, 5, 6, 7, 8, 9, 10, 11, 12],
      ∀ b ∈ [1, 2, 3, 4, 5, 6, 7, 8, 9, 10, 11, 12], a < b →
        daysBeforeMonth leap (a + 1) ≤ daysBeforeMonth leap b := by
    cases leap <;> decide
  exact hall a (month_mem ha (by omega)) b (month_mem (by omega) hb) hab

theorem day_in_year {leap : Bool} {month : Nat} {day : Int} (h1 : 1 ≤ month) (h12 : month ≤ 12)
    (hday : 1 ≤ day) (hlast : day ≤ monthLength leap month) :
    0 ≤ daysBeforeMonth leap month + (day - 1) ∧
      daysBeforeMonth leap month + (day - 1) < if leap then 366 else 365 := by
  have hstart : ∀ m ∈ [1, 2, 3, 4, 5, 6, 7, 8, 9, 10, 11, 12],
      0 ≤ daysBeforeMonth leap m ∧ daysBeforeMonth leap (m + 1) ≤ if leap then 366 else 365 := by
    cases leap <;> decide
  obtain ⟨hlow, hhigh⟩ := hstart month (month_mem h1 h12)
  simp only [monthLength] at hlast
  omega

theorem monthOfDay_eq {leap : Bool} {month : Nat} {day : Int} (h1 : 1 ≤ month)
    (h12 : month ≤ 12) (hday : 1 ≤ day) (hlast : day ≤ monthLength leap month) :
    monthOfDay leap (daysBeforeMonth leap month + (day - 1)) = month := by
  obtain ⟨hlow, hhigh⟩ := day_in_year h1 h12 hday hlast
  obtain ⟨hm1, hm12, hstart, hend⟩ := monthOfDay_spec hlow hhigh
  generalize monthOfDay leap (daysBeforeMonth leap month + (day - 1)) = other at *
  simp only [monthLength] at hlast
  rcases Nat.lt_trichotomy other month with h | h | h
  · have := daysBeforeMonth_succ_le leap hm1 h h12
    omega
  · exact h
  · have := daysBeforeMonth_succ_le leap h1 h hm12
    omega

/-! ### Numbers of dates -/

namespace Date

theorem dayNumber_ofDayNumber (n : Int) : (ofDayNumber n).dayNumber = n := by
  simp only [ofDayNumber, dayNumber]
  omega

theorem exists_iff {d : Date} : d.exists? = true ↔
    1 ≤ d.month ∧ d.month ≤ 12 ∧ 1 ≤ d.day ∧ d.day ≤ monthLength (isLeap d.year) d.month := by
  simp [exists?, and_assoc]

theorem ofDayNumber_dayNumber {d : Date} (h : d.exists? = true) :
    ofDayNumber d.dayNumber = d := by
  obtain ⟨h1, h12, hday, hlast⟩ := exists_iff.1 h
  obtain ⟨hlow, hhigh⟩ := day_in_year h1 h12 hday hlast
  have hnumber : d.dayNumber - firstDay = daysBeforeYear d.year +
      (daysBeforeMonth (isLeap d.year) d.month + (d.day - 1)) := by
    simp only [dayNumber]; omega
  have hyear : yearOfDay (d.dayNumber - firstDay) = d.year := by
    apply yearOfDay_eq
    · omega
    · rw [daysBeforeYear_succ]; omega
  have hrest : d.dayNumber - firstDay - daysBeforeYear d.year =
      daysBeforeMonth (isLeap d.year) d.month + (d.day - 1) := by omega
  simp only [ofDayNumber, hyear, hrest, monthOfDay_eq h1 h12 hday hlast]
  obtain ⟨year, month, day⟩ := d
  simp only [Date.mk.injEq, true_and]
  omega

theorem ofDayNumber_exists (n : Int) : (ofDayNumber n).exists? = true := by
  obtain ⟨hlow, hhigh⟩ := yearOfDay_spec (n - firstDay)
  rw [daysBeforeYear_succ] at hhigh
  obtain ⟨h1, h12, hstart, hend⟩ := monthOfDay_spec
    (show 0 ≤ n - firstDay - daysBeforeYear (yearOfDay (n - firstDay)) by omega)
    (show _ < if isLeap (yearOfDay (n - firstDay)) then 366 else 365 by omega)
  rw [exists_iff]
  refine ⟨h1, h12, ?_, ?_⟩ <;> simp only [ofDayNumber, monthLength] <;> omega

end Date

end FileSieve.Calendar
