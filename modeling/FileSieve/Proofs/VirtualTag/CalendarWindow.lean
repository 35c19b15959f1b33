import FileSieve.Proofs.Calendar.Transitions
import FileSieve.Proofs.Number.Whole
import FileSieve.Proofs.Outcome
import FileSieve.VirtualTag.TimeWindow

/-!
# Windows of the calendar

The window of a keyword is worked out from the seconds of local midnights. It holds the times of a
day, a week, a month or a year, however the clock is put forward and back in between.

* `Date.firstOfYear_le_iff`, `Date.firstOfMonth_le_iff`: up to a day, its year and its month are
  told by their first days.
* `Reading.dayStart_le_iff`: a time is not before the start of a day when its local day is not.
* `TimeWindow.Keyword.covers_iff_holds`: the window of a keyword is a window of the calendar.
-/

namespace FileSieve

open Calendar

/-! ### Months and years -/

namespace Calendar.Date

variable {m n : Int}

theorem dayNumber_firstOfYear (year : Int) :
    (Date.mk year 1 1).dayNumber = firstDay + daysBeforeYear year := by
  have : daysBeforeMonth (isLeap year) 1 = 0 := by cases isLeap year <;> rfl
  simp only [dayNumber, this]
  omega

/-- Up to a day, the days of its year are those from the first one on. -/
theorem firstOfYear_le_iff (h : n ≤ m) :
    (Date.mk (ofDayNumber m).year 1 1).dayNumber ≤ n ↔
      (ofDayNumber n).year = (ofDayNumber m).year := by
  change _ ↔ yearOfDay (n - firstDay) = yearOfDay (m - firstDay)
  obtain ⟨hlow, -⟩ := yearOfDay_spec (n - firstDay)
  obtain ⟨-, hhigh⟩ := yearOfDay_spec (m - firstDay)
  rw [dayNumber_firstOfYear]
  change firstDay + daysBeforeYear (yearOfDay (m - firstDay)) ≤ n ↔ _
  constructor
  · intro hfirst
    exact yearOfDay_eq (by omega) (by omega)
  · intro heq
    rw [← heq]
    omega

/-- Up to a day, the days of its month are those from the first one on. -/
theorem firstOfMonth_le_iff (h : n ≤ m) :
    (Date.mk (ofDayNumber m).year (ofDayNumber m).month 1).dayNumber ≤ n ↔
      (ofDayNumber n).year = (ofDayNumber m).year ∧
        (ofDayNumber n).month = (ofDayNumber m).month := by
  have hm := dayNumber_ofDayNumber m
  have hn := dayNumber_ofDayNumber n
  obtain ⟨h1, h12, hday, hlast⟩ := exists_iff.1 (ofDayNumber_exists m)
  constructor
  · intro hfirst
    -- the day lies in the month of the later one, so it has a date there
    let d : Date := ⟨(ofDayNumber m).year, (ofDayNumber m).month,
      n - (Date.mk (ofDayNumber m).year (ofDayNumber m).month 1).dayNumber + 1⟩
    have hd : d.dayNumber = n := by
      simp only [d, dayNumber]
      omega
    have hexists : d.exists? = true := by
      refine exists_iff.2 ⟨h1, h12, ?_, ?_⟩
      · simp only [d]; omega
      · simp only [d, dayNumber] at *; omega
    rw [← hd, ofDayNumber_dayNumber hexists]
    exact ⟨rfl, rfl⟩
  · rintro ⟨hyear, hmonth⟩
    have hpos := (exists_iff.1 (ofDayNumber_exists n)).2.2.1
    simp only [dayNumber, hyear, hmonth] at *
    omega

end Calendar.Date

/-! ### Starts of days -/

namespace Calendar.Reading

variable {zone : Zone} {now : Reading} {day t : Int} {x : Binary64}

/-- The instant at which a local clock shows a reading. -/
def instant (zone : Zone) (now : Reading) : Instant :=
  ⟨zone.secondAt now.second now.secondPass * Instant.perSecond + now.wall % Instant.perSecond⟩

theorem localTimestamp_eq_ok {wall micros : Int} {secondPass : Bool}
    (h : localTimestamp zone wall micros secondPass = .ok x) :
    ∃ s, zone.secondOf? wall secondPass = some s ∧
      x = (Binary64.ofRat s).add (.ofRat (mkRat micros Instant.perSecond.toNat)) := by
  unfold localTimestamp at h
  split at h
  · cases h
  · rename_i s hs
    cases h
    exact ⟨s, hs, rfl⟩

/-- The start of a day on a local clock is a whole number of seconds. -/
theorem dayStart_eq_ok (hzone : zone.IsSteady) (hlocal : now.offset = none)
    (h : now.dayStart zone day = .ok x) :
    x = .finite (zone.secondAt (day * secondsPerDay)) ∧
      ∀ t, |zone.offsetAt t| ≤ 400000000000 := by
  unfold dayStart at h
  rw [hlocal] at h
  obtain ⟨s, hs, rfl⟩ := localTimestamp_eq_ok h
  obtain ⟨hbound, hoffset⟩ := Zone.secondOf?_bounds hzone hs
  refine ⟨?_, hoffset⟩
  rw [← (Zone.secondOf?_eq_some hs).1]
  exact Binary64.add_ofRat_zero (by simp only [Binary64.wholeBound]; omega)

theorem dayBefore_eq_ok (h : now.dayBefore = .ok day) : day = now.day - 1 := by
  unfold dayBefore at h
  split at h
  · cases h
    rfl
  · cases h

theorem ofRat_of_localDate? {d : Date} (hoffset : |zone.offsetAt t| ≤ 400000000000)
    (hd : (Instant.ofSecond t).localDate? zone = some d) :
    Binary64.ofRat t = .finite t ∧ d = .ofDayNumber (zone.dayAt t) := by
  obtain ⟨rfl, hrange⟩ := Zone.localDate?_eq_some hd
  refine ⟨Binary64.ofRat_intCast ?_, rfl⟩
  rw [Zone.inRange_iff, Zone.wallAt] at hrange
  rw [abs_le] at hoffset
  rw [abs_lt]
  simp only [Binary64.wholeBound]
  omega

/-- **A time is not before the start of a day when its local day is not before it.** -/
theorem dayStart_le_iff (hzone : zone.IsSteady) (hlocal : now.offset = none) {d : Date}
    (hd : (Instant.ofSecond t).localDate? zone = some d) (h : now.dayStart zone day = .ok x) :
    x.le (.ofRat t) = true ↔ day ≤ zone.dayAt t := by
  obtain ⟨rfl, hoffset⟩ := dayStart_eq_ok hzone hlocal h
  rw [(ofRat_of_localDate? (hoffset t) hd).1, Binary64.le_finite, decide_eq_true_iff,
    Int.cast_le, Zone.secondAt_midnight_le_iff hzone]

theorem lt_dayStart_iff (hzone : zone.IsSteady) (hlocal : now.offset = none) {d : Date}
    (hd : (Instant.ofSecond t).localDate? zone = some d) (h : now.dayStart zone day = .ok x) :
    (Binary64.ofRat t).lt x = true ↔ zone.dayAt t < day := by
  have hle := dayStart_le_iff hzone hlocal hd h
  obtain ⟨rfl, hoffset⟩ := dayStart_eq_ok hzone hlocal h
  rw [(ofRat_of_localDate? (hoffset t) hd).1] at hle ⊢
  rw [Binary64.lt_finite, decide_eq_true_iff, ← Int.not_le, ← hle, Binary64.le_finite,
    decide_eq_true_iff, not_le]

theorem le_second_of_le_instant (hnow : (Instant.ofSecond t).micros ≤ (now.instant zone).micros) :
    t ≤ zone.secondAt now.second now.secondPass := by
  simp only [Instant.ofSecond, instant, Instant.perSecond] at hnow
  omega

/-- A time up to now is not after the time that a local clock shows. -/
theorem le_timestamp (hzone : zone.IsSteady) (hlocal : now.offset = none) {d : Date}
    (hd : (Instant.ofSecond t).localDate? zone = some d)
    (hnow : (Instant.ofSecond t).micros ≤ (now.instant zone).micros)
    (h : now.timestamp zone = .ok x) : (Binary64.ofRat t).le x = true := by
  unfold timestamp at h
  rw [hlocal] at h
  obtain ⟨s, hs, rfl⟩ := localTimestamp_eq_ok h
  obtain ⟨hbound, hoffset⟩ := Zone.secondOf?_bounds hzone hs
  have hts : t ≤ s := by
    rw [(Zone.secondOf?_eq_some hs).1]
    exact le_second_of_le_instant hnow
  rw [(ofRat_of_localDate? (hoffset t) hd).1]
  have hlow : 0 ≤ now.wall % Instant.perSecond := Int.emod_nonneg _ (by decide)
  have hhigh : now.wall % Instant.perSecond < 1000000 := Int.emod_lt_of_pos _ (by decide)
  -- what is shown beyond the second is a part of one
  have hpart : mkRat (now.wall % Instant.perSecond) Instant.perSecond.toNat =
      ((now.wall % Instant.perSecond : Int) : Rat) / 1000000 := by
    rw [Rat.mkRat_eq_div]
    rfl
  rw [hpart]
  refine Binary64.le_add_ofRat hts ?_ ?_ ?_
  · simp only [Binary64.wholeBound]; omega
  · exact div_nonneg (by exact_mod_cast hlow) (by norm_num)
  · rw [div_le_one (by norm_num)]
    exact_mod_cast hhigh.le

end Calendar.Reading

/-! ### Keywords -/

namespace TimeWindow.Keyword

/-- The days of a keyword, seen from today; weeks start on Monday. -/
def Holds (today d : Date) : Keyword → Prop
  | .today => d = today
  | .yesterday => d.dayNumber + 1 = today.dayNumber
  | .thisWeek => d.dayNumber - weekday d.dayNumber = today.dayNumber - weekday today.dayNumber
  | .thisMonth => d.year = today.year ∧ d.month = today.month
  | .thisYear => d.year = today.year

variable {zone : Zone} {now : Reading} {t : Int} {d : Date} {keyword : Keyword} {verdict : Bool}

/-- **The window of a keyword is a window of the calendar**: in every supported zone it holds the
times up to now whose local date is of the day, the week, the month or the year. -/
theorem covers_iff_holds (hzone : zone.IsSupported) (hlocal : now.offset = none)
    (hd : (Instant.ofSecond t).localDate? zone = some d)
    (hnow : (Instant.ofSecond t).micros ≤ (now.instant zone).micros)
    (h : TimeWindow.covers zone now (.ofRat t) (.keyword keyword) = .ok verdict) :
    verdict = true ↔ keyword.Holds now.date d := by
  have hsteady := hzone.isSteady
  have hday : zone.dayAt t ≤ now.day :=
    (Zone.dayAt_mono hsteady (Reading.le_second_of_le_instant hnow)).trans
      (Zone.dayAt_secondAt_le hsteady _ _)
  have hdate : d = .ofDayNumber (zone.dayAt t) := (Zone.localDate?_eq_some hd).1
  have htoday : now.date.dayNumber = now.day := Date.dayNumber_ofDayNumber _
  have hnumber : d.dayNumber = zone.dayAt t := by rw [hdate, Date.dayNumber_ofDayNumber]
  have hle {day : Int} {x : Binary64} (hx : now.dayStart zone day = .ok x) :
      x.le (.ofRat t) = true ↔ day ≤ zone.dayAt t := Reading.dayStart_le_iff hsteady hlocal hd hx
  cases keyword with
  | today =>
    obtain ⟨start, hstart, h⟩ := bind_eq_ok_iff.1 h
    -- no time up to now lies in a later day
    have hholds : Holds now.date d .today ↔ now.day ≤ zone.dayAt t := by
      constructor
      · rintro rfl
        omega
      · intro hge
        rw [Holds, hdate, show zone.dayAt t = now.day by omega]
        rfl
    rw [hholds, ← hle hstart]
    split at h
    · rename_i hbefore
      obtain ⟨present, hpresent, h⟩ := bind_eq_ok_iff.1 h
      cases h
      rw [Reading.le_timestamp hsteady hlocal hd hnow hpresent, hbefore]
    · rename_i hafter
      cases h
      exact ⟨fun hfalse => absurd hfalse Bool.false_ne_true, fun htrue => absurd htrue hafter⟩
  | yesterday =>
    obtain ⟨before, hbefore, h⟩ := bind_eq_ok_iff.1 h
    obtain ⟨start, hstart, h⟩ := bind_eq_ok_iff.1 h
    have hlow := hle hstart
    rw [Reading.dayBefore_eq_ok hbefore] at hlow
    rw [Holds, hnumber, htoday]
    split at h
    · rename_i hreached
      obtain ⟨stop, hstop, h⟩ := bind_eq_ok_iff.1 h
      cases h
      have := hlow.1 hreached
      rw [Reading.lt_dayStart_iff hsteady hlocal hd hstop]
      omega
    · rename_i hmissed
      cases h
      rw [hlow] at hmissed
      constructor
      · intro hfalse; cases hfalse
      · omega
  | thisWeek =>
    obtain ⟨start, hstart, h⟩ := bind_eq_ok_iff.1 h
    cases h
    rw [hle hstart, Holds, hnumber, htoday]
    simp only [weekday]
    omega
  | thisMonth =>
    obtain ⟨start, hstart, h⟩ := bind_eq_ok_iff.1 h
    cases h
    rw [hle hstart, Holds, hdate]
    exact Date.firstOfMonth_le_iff hday
  | thisYear =>
    obtain ⟨start, hstart, h⟩ := bind_eq_ok_iff.1 h
    cases h
    rw [hle hstart, Holds, hdate]
    exact Date.firstOfYear_le_iff hday

/-- Ten past one of 2024-11-03 in the northern zone, after the clock was put back, seen at half past
one in the second pass; in the first pass it would be a time to come. -/
theorem covers_second_pass :
    let zone : Zone := ⟨-18000, some ⟨-14400, ⟨3, 2, 0, 7200⟩, ⟨11, 1, 0, 7200⟩⟩⟩
    let now : Reading := ⟨1730597400000000, none, true⟩
    TimeWindow.covers zone now (.ofRat (1730614200 : Int)) (.keyword .today) = .ok true ∧
      (Instant.ofSecond 1730614200).localDate? zone = some ⟨2024, 11, 3⟩ ∧
        Keyword.today.Holds now.date ⟨2024, 11, 3⟩ := by
  intro zone now
  have hcovers : TimeWindow.covers zone now (.ofRat (1730614200 : Int)) (.keyword .today) =
      .ok true := by
    decide +kernel
  have hd : (Instant.ofSecond 1730614200).localDate? zone = some ⟨2024, 11, 3⟩ := by
    decide +kernel
  exact ⟨hcovers, hd, (covers_iff_holds (.inr (.inl Zone.ofText?_northernText)) rfl hd
    (by decide +kernel) hcovers).1 rfl⟩

end TimeWindow.Keyword

end FileSieve
