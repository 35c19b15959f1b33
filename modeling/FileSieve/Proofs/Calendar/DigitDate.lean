import FileSieve.Proofs.Calendar.Midnight
import Mathlib.Data.List.Basic

/-!
# Dates of digits

A date of four, two and two digits is read when there is such a day in the Gregorian calendar. At a
fixed offset its midnight is found unless it lies beyond the ends of the calendar, and for the very
first date it is never found, as a day is looked back.

* `Date.isValid_iff_isGregorian`: the dates that are read, by the rules of the calendar.
* `Date.ofText?_of_isSpelled`: a text of digits is read as the date of its numbers, or not at all.
* `Zone.inRange_iff_yearOfSecond`: the years that dates may have.
* `Zone.midnight?_fixed_iff`: the midnights that are found at a fixed offset.
-/

namespace FileSieve.Calendar

open Text

/-! ### The Gregorian calendar -/

namespace Date

variable {d : Date} {s : List Char}

/-- The last day of a month. Every fourth year is a leap year, of the full centuries every fourth
one. -/
def lastDay (year : Int) (month : Nat) : Int :=
  if month = 2 then if 4 ∣ year ∧ ¬ 100 ∣ year ∨ 400 ∣ year then 29 else 28
  else if month ∈ [4, 6, 9, 11] then 30
  else 31

/-- The date is one of the Gregorian calendar, in the years from 1 to 9999. -/
structure IsGregorian (d : Date) : Prop where
  year : 1 ≤ d.year ∧ d.year ≤ 9999
  month : 1 ≤ d.month ∧ d.month ≤ 12
  day : 1 ≤ d.day ∧ d.day ≤ lastDay d.year d.month

theorem isLeap_iff {year : Int} :
    isLeap year = true ↔ 4 ∣ year ∧ ¬ 100 ∣ year ∨ 400 ∣ year := by
  simp only [isLeap, Bool.and_eq_true, Bool.or_eq_true, decide_eq_true_eq]
  omega

theorem monthLength_eq_lastDay {year : Int} {month : Nat} (h1 : 1 ≤ month) (h12 : month ≤ 12) :
    monthLength (isLeap year) month = lastDay year month := by
  have hall (leap : Bool) : ∀ m ∈ [1, 2, 3, 4, 5, 6, 7, 8, 9, 10, 11, 12],
      monthLength leap m =
        if m = 2 then if leap = true then 29 else 28
        else if m ∈ [4, 6, 9, 11] then 30
        else 31 := by
    cases leap <;> decide
  rw [hall (isLeap year) month (month_mem h1 h12)]
  simp only [lastDay, isLeap_iff]

/-- **The dates that are read, by the rules of the calendar.** -/
theorem isValid_iff_isGregorian : d.isValid = true ↔ d.IsGregorian := by
  rw [isValid_iff, exists_iff]
  constructor
  · rintro ⟨hlow, hhigh, h1, h12, hfirst, hlast⟩
    exact ⟨⟨hlow, hhigh⟩, ⟨h1, h12⟩, hfirst, monthLength_eq_lastDay h1 h12 ▸ hlast⟩
  · rintro ⟨⟨hlow, hhigh⟩, ⟨h1, h12⟩, hfirst, hlast⟩
    exact ⟨hlow, hhigh, h1, h12, hfirst, (monthLength_eq_lastDay h1 h12).symm ▸ hlast⟩

/-! ### Texts of digits -/

/-- The text is one of so many ASCII digits. -/
def IsDigits (count : Nat) (s : List Char) : Prop := s.length = count ∧ IsNumeral s

instance (count : Nat) (s : List Char) : Decidable (IsDigits count s) :=
  inferInstanceAs (Decidable (_ ∧ _))

/-- The text has four digits for the year and two each for the month and the day, with dashes
between them. There need be no such day. -/
inductive IsSpelled : Date → List Char → Prop
  | digits {year month day : List Char} (hyear : IsDigits 4 year) (hmonth : IsDigits 2 month)
      (hday : IsDigits 2 day) :
      IsSpelled ⟨digitsValue year, digitsValue month, digitsValue day⟩
        (year ++ '-' :: (month ++ '-' :: day))

/-- Two digits are those of a list. -/
theorem IsDigits.exists_pair (h : IsDigits 2 s) : ∃ a ∈ tenDigits, ∃ b ∈ tenDigits, s = [a, b] := by
  obtain ⟨hlength, -, hdigits⟩ := h
  obtain ⟨a, b, rfl⟩ := List.length_eq_two.1 hlength
  exact ⟨a, mem_tenDigits (hdigits a (by simp)), b, mem_tenDigits (hdigits b (by simp)), rfl⟩

/-- Two digits before a dash are a month up to twelve; otherwise nothing is read on. -/
theorem month?_bind_of_isDigits {β : Type} (h : IsDigits 2 s) (rest : List Char)
    (next : Nat → List Char → Option β) :
    ((month? (s ++ '-' :: rest)).bind fun x => (dropStart? ['-'] x.2).bind (next x.1)) =
      if 1 ≤ digitsValue s ∧ digitsValue s ≤ 12 then next (digitsValue s) rest else none := by
  obtain ⟨a, ha, b, hb, rfl⟩ := h.exists_pair
  simp only [tenDigits, List.mem_cons, List.not_mem_nil, or_false] at ha hb
  rcases ha with rfl | rfl | rfl | rfl | rfl | rfl | rfl | rfl | rfl | rfl <;>
    rcases hb with rfl | rfl | rfl | rfl | rfl | rfl | rfl | rfl | rfl | rfl <;> rfl

/-- Two digits are a day up to thirty-one. -/
theorem day?_of_isDigits (h : IsDigits 2 s) :
    day? s = if 1 ≤ digitsValue s ∧ digitsValue s ≤ 31 then some (digitsValue s) else none := by
  obtain ⟨a, ha, b, hb, rfl⟩ := h.exists_pair
  simp only [tenDigits, List.mem_cons, List.not_mem_nil, or_false] at ha hb
  rcases ha with rfl | rfl | rfl | rfl | rfl | rfl | rfl | rfl | rfl | rfl <;>
    rcases hb with rfl | rfl | rfl | rfl | rfl | rfl | rfl | rfl | rfl | rfl <;> rfl

/-- **A text of digits is read as the date of its numbers, or not at all.** -/
theorem ofText?_of_isSpelled (h : d.IsSpelled s) :
    Date.ofText? s = if d.isValid then some d else none := by
  obtain @⟨year, month, day, hyear, hmonth, hday⟩ := h
  have hdigits : year.all isDigit = true := List.all_eq_true.2 hyear.2.isDigit
  have hstart : dropStart? ['-'] ('-' :: (month ++ '-' :: day)) = some (month ++ '-' :: day) :=
    dropStart?_append
  unfold ofText?
  simp only [List.take_left' hyear.1, List.drop_left' hyear.1, hyear.1, hdigits, and_self, if_true,
    hstart, Option.bind_eq_bind, Option.bind_some]
  refine (month?_bind_of_isDigits hmonth day fun month rest => (day? rest).bind fun day =>
    let date : Date := ⟨digitsValue year, month, day⟩
    if date.isValid then some date else none).trans ?_
  rw [day?_of_isDigits hday]
  -- a date with another month or day is none of the calendar
  by_cases hvalid :
      (Date.mk (digitsValue year) (digitsValue month) (digitsValue day)).isValid = true
  · have hexists := exists_of_isValid hvalid
    obtain ⟨h1, h12, hfirst, -⟩ := exists_iff.1 hexists
    have hlast := day_le hexists
    simp only at hfirst hlast
    rw [if_pos ⟨h1, h12⟩, if_pos (by omega)]
    rfl
  · rw [if_neg hvalid]
    split_ifs
    · exact if_neg hvalid
    · rfl
    · rfl

/-! ### The ends of the calendar -/

/-- The first date that a clock can show. -/
def first : Date := ⟨1, 1, 1⟩

theorem dayNumber_first : first.dayNumber = -719162 := by decide

theorem dayNumber_last : last.dayNumber = 2932896 := by decide

/-- Valid dates are those from the first one to the last one. -/
theorem dayNumber_bounds (h : d.isValid = true) :
    first.dayNumber ≤ d.dayNumber ∧ d.dayNumber ≤ last.dayNumber := by
  obtain ⟨hlow, hhigh, hexists⟩ := isValid_iff.1 h
  obtain ⟨h1, h12, hfirst, -⟩ := exists_iff.1 hexists
  have hday := day_le hexists
  rw [← le_iff_dayNumber_le (by decide) hexists, ← le_iff_dayNumber_le hexists (by decide), le_iff,
    le_iff, lt_iff, lt_iff]
  simp only [first, last]
  omega

end Date

namespace Zone

variable {standard wall t : Int} {zone : Zone} {d : Date} {start : Instant}

/-- A second is in a year or a later one when the year has started. -/
theorem le_yearOfSecond_iff {year : Int} : year ≤ yearOfSecond t ↔ yearStart year ≤ t := by
  obtain ⟨hlow, hhigh⟩ := yearOfSecond_spec t
  refine ⟨fun h => (yearStart_le h).trans hlow, fun h => ?_⟩
  by_contra hlater
  have := yearStart_le (show yearOfSecond t + 1 ≤ year by omega)
  omega

theorem yearOfSecond_mono {u : Int} (h : t ≤ u) : yearOfSecond t ≤ yearOfSecond u :=
  le_yearOfSecond_iff.2 ((le_yearOfSecond_iff.1 (Int.le_refl _)).trans h)

/-- **The years that dates may have** are those from 1 to 9999. -/
theorem inRange_iff_yearOfSecond :
    inRange t = true ↔ 1 ≤ yearOfSecond t ∧ yearOfSecond t ≤ 9999 := by
  have hfirst : yearStart 1 = -62135596800 := by decide
  have hend : yearStart 10000 = 253402300800 := by decide
  have hlast : yearOfSecond t ≤ 9999 ↔ ¬ 10000 ≤ yearOfSecond t := by omega
  rw [inRange_iff, hlast, le_yearOfSecond_iff, le_yearOfSecond_iff, hfirst, hend, Int.not_le]

/-- At a fixed offset a day is looked back before what a clock shows is found. -/
theorem inRange_dayBefore_of_secondOf? {s : Int} (h : secondOf? ⟨standard, none⟩ wall = some s) :
    inRange (wall - secondsPerDay) = true := by
  obtain ⟨ahead, hahead, h⟩ := Option.bind_eq_some_iff.1 h
  obtain ⟨rfl, -⟩ := wallAt?_eq_some hahead
  obtain ⟨shown, hshown, h⟩ := Option.bind_eq_some_iff.1 h
  obtain ⟨rfl, -⟩ := wallAt?_eq_some hshown
  have hwall : wall - (wall + standard - wall) + standard = wall := by omega
  simp only [wallAt_fixed, hwall, if_true, Bool.false_eq_true, if_false] at h
  obtain ⟨b, hb, -⟩ := Option.bind_eq_some_iff.1 h
  obtain ⟨before, hbefore, -⟩ := Option.map_eq_some_iff.1 hb
  obtain ⟨-, hrange⟩ := wallAt?_eq_some hbefore
  rwa [wallAt_fixed, show wall - (wall + standard - wall) - secondsPerDay + standard =
    wall - secondsPerDay by omega] at hrange

/-- **The midnights that are found at a fixed offset**: those of all dates but the first one, unless
they are in other years in universal time. -/
theorem midnight?_fixed_iff (hoffset : |standard| < secondsPerDay) (hd : d.isValid = true) :
    midnight? ⟨standard, none⟩ d = some start ↔
      d ≠ .first ∧ inRange (d.dayNumber * secondsPerDay - standard) = true ∧
        start = .ofSecond (d.dayNumber * secondsPerDay - standard) := by
  have hexists := Date.exists_of_isValid hd
  constructor
  · intro h
    obtain ⟨hstart, -, -, hrange⟩ := midnight?_eq_some h
    refine ⟨?_, hrange, hstart⟩
    rintro rfl
    obtain ⟨near, hnear, -⟩ := Option.bind_eq_some_iff.1 h
    exact absurd (inRange_dayBefore_of_secondOf? hnear) (by decide)
  · rintro ⟨hne, hrange, rfl⟩
    obtain ⟨hlow, hhigh⟩ := Date.dayNumber_bounds hd
    have hday : d.dayNumber ≠ Date.first.dayNumber := fun heq =>
      hne ((Date.eq_iff_dayNumber_eq hexists (by decide)).2 heq)
    obtain ⟨hwest, heast⟩ := abs_lt.1 hoffset
    rw [Date.dayNumber_first] at hlow hday
    rw [Date.dayNumber_last] at hhigh
    refine midnight?_fixed ?_ ?_ ?_ hrange
    all_goals
      rw [inRange_iff]
      simp only [secondsPerDay] at *
      omega

end Zone

end FileSieve.Calendar
