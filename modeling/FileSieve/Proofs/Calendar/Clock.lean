import FileSieve.Calendar.Clock
import FileSieve.Proofs.Calendar.DateText
import FileSieve.Proofs.Outcome

/-!
# Clocks that can be read

Away from the ends of the calendar every reading of a local clock has its second of the epoch, and
so do the midnights that a window of the calendar asks for.

* `Zone.exists_secondOf?_of_bounds`: a clock can be read away from the ends of the calendar.
* `Reading.IsModern.exists_timestamp`, `Reading.IsModern.exists_dayStart`: the seconds since the
  epoch of now, and of the midnights around now.
-/

namespace FileSieve.Calendar

namespace Zone

variable {zone : Zone} {wall t : Int} {secondPass : Bool}

/-- The offsets of the zone are less than a day. -/
def IsNarrow (zone : Zone) : Prop :=
  ∀ t, -secondsPerDay < zone.offsetAt t ∧ zone.offsetAt t < secondsPerDay

theorem IsSupported.isNarrow (h : zone.IsSupported) (hstandard : |zone.standard| < secondsPerDay) :
    zone.IsNarrow := by
  intro t
  cases hsummer : zone.summer with
  | none =>
    have hoffset : zone.offsetAt t = zone.standard := by simp only [offsetAt, hsummer]
    rw [hoffset]
    exact abs_lt.1 hstandard
  | some summer => exact offsetAt_bounds (h.isSteady summer hsummer) hsummer t

/-- **A clock can be read away from the ends of the calendar**: as far as its offsets lead, as far
as they change, and a day further than that after the first one or, in the second pass, before the
last. -/
theorem exists_secondOf?_of_bounds {low high : Int}
    (h : ∀ t, low ≤ zone.offsetAt t ∧ zone.offsetAt t ≤ high) (hlow : firstSecond ≤ wall + low)
    (hhigh : wall + high < endSecond)
    (hbefore : firstSecond + (if secondPass then 0 else secondsPerDay) + (high - low) ≤ wall)
    (hafter : wall + (high - low) + (if secondPass then secondsPerDay else 0) < endSecond) :
    ∃ s, zone.secondOf? wall secondPass = some s := by
  have hoffset (t : Int) : zone.wallAt t - t = zone.offsetAt t := by simp only [wallAt]; omega
  have hday : secondsPerDay = 86400 := rfl
  have hshown {t : Int} (hfirst : firstSecond ≤ t + low) (hend : t + high < endSecond) :
      zone.wallAt? t = some (zone.wallAt t) := by
    have := h t
    refine wallAt?_of_inRange (Bool.and_eq_true_iff.2 ⟨decide_eq_true ?_, decide_eq_true ?_⟩)
    · rw [wallAt]
      omega
    · rw [wallAt]
      omega
  have ha := h wall
  have hfirst := h (wall - zone.offsetAt wall)
  -- the day that is looked at beside it is the one before or the one after
  generalize haside : (if secondPass = true then wall - zone.offsetAt wall + secondsPerDay
    else wall - zone.offsetAt wall - secondsPerDay) = aside
  have hshownAside : zone.wallAt? aside = some (zone.wallAt aside) := by
    refine hshown ?_ ?_ <;> cases secondPass <;> simp at haside hbefore hafter <;> omega
  have hoffsetAside := h aside
  -- the second offset that is tried is one of the zone as well
  have hsecond (o : Int) (ho : low ≤ o ∧ o ≤ high) :
      zone.wallAt? (wall - o) = some (zone.wallAt (wall - o)) := by
    refine hshown ?_ ?_ <;> cases secondPass <;> simp at hbefore hafter <;> omega
  unfold secondOf?
  simp only [hshown hlow hhigh, Option.bind_eq_bind, Option.bind_some, hoffset, hsecond _ ha,
    haside, hshownAside]
  by_cases hwall : zone.wallAt (wall - zone.offsetAt wall) = wall
  · simp only [if_pos hwall, Option.map_eq_map, Option.map_some, Option.bind_some, hoffset,
      hsecond _ hoffsetAside]
    split_ifs <;> exact ⟨_, rfl⟩
  · simp only [if_neg hwall, Option.bind_some, hsecond _ hfirst]
    split_ifs <;> exact ⟨_, rfl⟩

/-- A clock can be read a few days away from the ends of the calendar. -/
theorem exists_secondOf? (h : zone.IsNarrow) (hlow : firstSecond + 3 * secondsPerDay ≤ wall)
    (hhigh : wall + 3 * secondsPerDay ≤ endSecond) :
    ∃ s, zone.secondOf? wall secondPass = some s := by
  have hday : secondsPerDay = 86400 := rfl
  have hbounds (t : Int) :
      -secondsPerDay + 1 ≤ zone.offsetAt t ∧ zone.offsetAt t ≤ secondsPerDay - 1 := by
    have := h t
    omega
  refine exists_secondOf?_of_bounds hbounds (by omega) (by omega) ?_ ?_
  · split <;> omega
  · split <;> omega

end Zone

/-! ### Readings -/

namespace Date

theorem dayNumber_ofDayNumber_year (n : Int) :
    firstDay + daysBeforeYear (ofDayNumber n).year ≤ n ∧
      n < firstDay + daysBeforeYear ((ofDayNumber n).year + 1) := by
  have h := yearOfDay_spec (n - firstDay)
  change daysBeforeYear (ofDayNumber n).year ≤ _ ∧
    _ < daysBeforeYear ((ofDayNumber n).year + 1) at h
  omega

end Date

namespace Reading

variable {zone : Zone} {now : Reading} {day : Int}

/-- The clock shows a year from 1970 to 9000. -/
def IsModern (now : Reading) : Prop := 1970 ≤ now.date.year ∧ now.date.year ≤ 9000

theorem IsModern.day_bounds (h : now.IsModern) : 0 ≤ now.day ∧ now.day < 2568020 := by
  obtain ⟨hlow, hhigh⟩ := Date.dayNumber_ofDayNumber_year now.day
  have hfirst := daysBeforeYear_mono h.1
  have hlast := daysBeforeYear_mono (Int.add_le_add_right h.2 1)
  have hstart : daysBeforeYear 1970 = 719162 := by decide
  have hend : daysBeforeYear (9000 + 1) = 3287182 := by decide
  simp only [date, Date.firstDay] at *
  omega

theorem exists_localTimestamp (hzone : zone.IsNarrow) {wall micros : Int} {secondPass : Bool}
    (hlow : -700000 * secondsPerDay ≤ wall) (hhigh : wall < 2600000 * secondsPerDay) :
    ∃ x, localTimestamp zone wall micros secondPass = .ok x := by
  have hfirst : Zone.firstSecond = -62135596800 := by decide
  have hend : Zone.endSecond = 253402300800 := by decide
  simp only [secondsPerDay] at hlow hhigh
  obtain ⟨s, hs⟩ : ∃ s, zone.secondOf? wall secondPass = some s := by
    refine Zone.exists_secondOf? hzone ?_ ?_
    · simp only [secondsPerDay]
      omega
    · simp only [secondsPerDay]
      omega
  rw [localTimestamp, hs]
  exact ⟨_, rfl⟩

namespace IsModern

theorem exists_timestamp (h : now.IsModern) (hzone : zone.IsNarrow) :
    ∃ x, now.timestamp zone = .ok x := by
  obtain ⟨hlow, hhigh⟩ := h.day_bounds
  unfold timestamp
  cases now.offset with
  | some offset => exact ⟨_, rfl⟩
  | none =>
    refine exists_localTimestamp hzone ?_ ?_
    · simp only [day, secondsPerDay] at *
      omega
    · simp only [day, secondsPerDay] at *
      omega

/-- The midnights up to now have their seconds, back to the last month of 1969. -/
theorem exists_dayStart (h : now.IsModern) (hzone : zone.IsNarrow) (hlow : -31 ≤ day)
    (hnow : day ≤ now.day) : ∃ x, now.dayStart zone day = .ok x := by
  have hhigh := h.day_bounds.2
  unfold dayStart
  cases now.offset with
  | some offset => exact ⟨_, rfl⟩
  | none =>
    refine exists_localTimestamp hzone ?_ ?_
    · simp only [secondsPerDay]
      omega
    · simp only [secondsPerDay]
      omega

theorem exists_dayBefore (h : now.IsModern) : ∃ yesterday, now.dayBefore = .ok yesterday := by
  obtain ⟨hlow, hhigh⟩ := h.day_bounds
  unfold dayBefore
  rw [if_pos]
  · exact ⟨_, rfl⟩
  · rw [Zone.inRange_iff]
    simp only [day, secondsPerDay] at *
    omega

end IsModern

end Reading

end FileSieve.Calendar
