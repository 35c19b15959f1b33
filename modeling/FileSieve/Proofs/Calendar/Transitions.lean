import FileSieve.Calendar.Instant
import Mathlib.Tactic.Linarith

/-!
# Transitions of a clock

A zone with summer time changes its offset twice a year. The transitions keep away from the turn of
the year and from other midnights than the one a summer may start or end at, so that the local
days follow each other although the clock is put forward and back.

* `SummerTime.isSummer_flip`: the offset changes at the seconds of the rules only.
* `Zone.dayAt_mono`: a later second does not lie in an earlier local day.
* `Zone.dayAt_secondAt`: the second at which a clock shows something lies in the day it shows.
* `Zone.dayAt_secondAt_le`: so it does when the clock shows it again, or it lies in an earlier day.
* `Zone.secondAt_midnight_le_iff`: a local day starts at the second of its midnight.
-/

namespace FileSieve.Calendar

/-! ### Years -/

/-- The second of the epoch at which a year of universal time starts. -/
def yearStart (year : Int) : Int := (Date.firstDay + daysBeforeYear year) * secondsPerDay

theorem yearOfSecond_spec (t : Int) :
    yearStart (Zone.yearOfSecond t) ≤ t ∧ t < yearStart (Zone.yearOfSecond t + 1) := by
  have h := yearOfDay_spec (t / secondsPerDay - Date.firstDay)
  change _ ∧ _ < daysBeforeYear (Zone.yearOfSecond t + 1) at h
  change daysBeforeYear (Zone.yearOfSecond t) ≤ _ ∧ _ at h
  simp only [yearStart, secondsPerDay] at h ⊢
  omega

theorem yearStart_le {a b : Int} (h : a ≤ b) : yearStart a ≤ yearStart b := by
  have := daysBeforeYear_mono h
  simp only [yearStart, secondsPerDay]
  omega

/-- Two seconds that follow each other lie in the same year, or the second one starts a year. -/
theorem yearOfSecond_succ (t : Int) :
    Zone.yearOfSecond (t - 1) = Zone.yearOfSecond t ∨
      (Zone.yearOfSecond t = Zone.yearOfSecond (t - 1) + 1 ∧
        t = yearStart (Zone.yearOfSecond t)) := by
  obtain ⟨hlow, hhigh⟩ := yearOfSecond_spec t
  obtain ⟨hlow', hhigh'⟩ := yearOfSecond_spec (t - 1)
  rcases Int.lt_trichotomy (Zone.yearOfSecond (t - 1)) (Zone.yearOfSecond t) with h | h | h
  · refine .inr ?_
    -- the later second starts its year
    have hnext := yearStart_le (Int.add_one_le_of_lt h)
    have heq : t = yearStart (Zone.yearOfSecond t) := by omega
    refine ⟨?_, heq⟩
    by_contra hne
    have hlater := yearStart_le
      (show Zone.yearOfSecond (t - 1) + 1 + 1 ≤ Zone.yearOfSecond t by omega)
    have hlength := daysBeforeYear_strictMono
      (show Zone.yearOfSecond (t - 1) + 1 < Zone.yearOfSecond (t - 1) + 1 + 1 by omega)
    simp only [yearStart, secondsPerDay] at *
    omega
  · exact .inl h
  · have := yearStart_le (Int.add_one_le_of_lt h)
    omega

/-! ### Rules -/

/-- The rule names one of the first four weeks of a month other than January and December, and a
second of the day. -/
structure YearlyRule.IsInner (rule : YearlyRule) : Prop where
  month_pos : 2 ≤ rule.month
  month_le : rule.month ≤ 11
  week_pos : 1 ≤ rule.week
  week_le : rule.week ≤ 4
  second_nonneg : 0 ≤ rule.second
  second_lt : rule.second < secondsPerDay

/-- The day number of the first day of a month. -/
def monthStart (year : Int) (month : Nat) : Int :=
  Date.firstDay + daysBeforeYear year + daysBeforeMonth (isLeap year) month

theorem monthStart_add_lt (year : Int) {a b : Nat} (ha : 1 ≤ a) (hab : a < b) (hb : b ≤ 12) :
    monthStart year a + 27 < monthStart year b := by
  have hmono : ∀ m ∈ [1, 2, 3, 4, 5, 6, 7, 8, 9, 10, 11, 12],
      ∀ n ∈ [1, 2, 3, 4, 5, 6, 7, 8, 9, 10, 11, 12], m < n →
        daysBeforeMonth (isLeap year) m + 27 < daysBeforeMonth (isLeap year) n := by
    cases isLeap year <;> decide
  have := hmono a (month_mem ha (by omega)) b (month_mem (by omega) hb) hab
  simp only [monthStart]
  omega

theorem monthStart_bounds (year : Int) {month : Nat} (h2 : 2 ≤ month) (h11 : month ≤ 11) :
    Date.firstDay + daysBeforeYear year + 31 ≤ monthStart year month ∧
      monthStart year month + 27 + 31 < Date.firstDay + daysBeforeYear (year + 1) := by
  have hall : ∀ m ∈ [1, 2, 3, 4, 5, 6, 7, 8, 9, 10, 11, 12], 2 ≤ m → m ≤ 11 →
      31 ≤ daysBeforeMonth (isLeap year) m ∧
        daysBeforeMonth (isLeap year) m + 27 + 31 < if isLeap year then 366 else 365 := by
    cases isLeap year <;> decide
  have := hall month (month_mem (by omega) (by omega)) h2 h11
  rw [daysBeforeYear_succ]
  simp only [monthStart]
  omega

/-- A rule falls into the first four weeks of its month. -/
theorem YearlyRule.IsInner.dayNumber_bounds {rule : YearlyRule} (h : rule.IsInner) (year : Int) :
    monthStart year rule.month ≤ rule.dayNumber year ∧
      rule.dayNumber year ≤ monthStart year rule.month + 27 := by
  have hweek := h.week_pos
  have hweek' := h.week_le
  have hfirst : (Date.mk year rule.month 1).dayNumber = monthStart year rule.month := by
    simp only [Date.dayNumber, monthStart]; omega
  simp only [YearlyRule.dayNumber, hfirst, weekday]
  rw [if_neg (by omega)]
  omega

/-! ### Summer time -/

namespace SummerTime

/-- The second at which summer starts in a year. -/
def startIn (standard : Int) (summer : SummerTime) (year : Int) : Int :=
  summer.starts.dayNumber year * secondsPerDay + summer.starts.second - standard

/-- The second at which summer ends in a year. -/
def stopIn (summer : SummerTime) (year : Int) : Int :=
  summer.ends.dayNumber year * secondsPerDay + summer.ends.second - summer.offset

/-- A summer time whose rules keep away from the turn of the year. When it starts, the clock is put
forward within a day; when it ends, the clock is put back within a day or from its very end. -/
structure IsSteady (standard : Int) (summer : SummerTime) : Prop where
  starts : summer.starts.IsInner
  ends : summer.ends.IsInner
  months : summer.starts.month ≠ summer.ends.month
  west : -secondsPerDay < standard
  east : summer.offset < secondsPerDay
  ahead : standard < summer.offset
  forward : summer.starts.second + 2 * (summer.offset - standard) ≤ secondsPerDay
  back : summer.ends.second = 0 ∨ summer.offset - standard < summer.ends.second

variable {standard : Int} {summer : SummerTime} {t u v : Int}

theorem isSummer_iff : Zone.isSummer standard summer t = true ↔
    if summer.stopIn (Zone.yearOfSecond t) < summer.startIn standard (Zone.yearOfSecond t) then
      t < summer.stopIn (Zone.yearOfSecond t) ∨ summer.startIn standard (Zone.yearOfSecond t) ≤ t
    else
      summer.startIn standard (Zone.yearOfSecond t) ≤ t ∧
        t < summer.stopIn (Zone.yearOfSecond t) := by
  unfold Zone.isSummer startIn stopIn
  simp only
  split <;> simp

namespace IsSteady

variable (h : IsSteady standard summer)
include h

theorem startIn_bounds (year : Int) :
    yearStart year < summer.startIn standard year ∧
      summer.startIn standard year < yearStart (year + 1) - 1 := by
  have hday := h.starts.dayNumber_bounds year
  have hmonth := monthStart_bounds year h.starts.month_pos h.starts.month_le
  have := h.starts.second_nonneg
  have := h.starts.second_lt
  have := h.west
  have := h.east
  have := h.ahead
  simp only [startIn, yearStart, secondsPerDay] at *
  omega

theorem stopIn_bounds (year : Int) :
    yearStart year < summer.stopIn year ∧ summer.stopIn year < yearStart (year + 1) - 1 := by
  have hday := h.ends.dayNumber_bounds year
  have hmonth := monthStart_bounds year h.ends.month_pos h.ends.month_le
  have := h.ends.second_nonneg
  have := h.ends.second_lt
  have := h.west
  have := h.east
  have := h.ahead
  simp only [stopIn, yearStart, secondsPerDay] at *
  omega

/-- Summer ends before it starts in a year when the months of the rules say so. -/
theorem stopIn_lt_startIn (year : Int) :
    summer.stopIn year < summer.startIn standard year ↔
      summer.ends.month < summer.starts.month := by
  have hstart := h.starts.dayNumber_bounds year
  have hstop := h.ends.dayNumber_bounds year
  have := h.starts.month_pos
  have := h.starts.month_le
  have := h.ends.month_pos
  have := h.ends.month_le
  have := h.starts.second_nonneg
  have := h.ends.second_nonneg
  have := h.ends.second_lt
  have := h.ahead
  have := h.forward
  rcases Nat.lt_or_gt_of_ne h.months with hmonth | hmonth
  · have := monthStart_add_lt year (by omega) hmonth (by omega)
    simp only [startIn, stopIn, secondsPerDay] at *
    omega
  · have := monthStart_add_lt year (by omega) hmonth (by omega)
    simp only [startIn, stopIn, secondsPerDay] at *
    omega

/-- At the turn of the year it is summer when it was before. -/
theorem isSummer_yearStart (hyear : Zone.yearOfSecond t = Zone.yearOfSecond (t - 1) + 1)
    (ht : t = yearStart (Zone.yearOfSecond t)) :
    Zone.isSummer standard summer (t - 1) = true ↔ Zone.isSummer standard summer t = true := by
  rw [isSummer_iff, isSummer_iff]
  simp only [h.stopIn_lt_startIn]
  rw [hyear] at ht ⊢
  have := h.startIn_bounds (Zone.yearOfSecond (t - 1))
  have := h.stopIn_bounds (Zone.yearOfSecond (t - 1))
  have := h.startIn_bounds (Zone.yearOfSecond (t - 1) + 1)
  have := h.stopIn_bounds (Zone.yearOfSecond (t - 1) + 1)
  split <;> omega

/-- **The offset changes at the seconds of the rules only.** -/
theorem isSummer_flip :
    (Zone.isSummer standard summer (t - 1) = true → Zone.isSummer standard summer t = false →
      t = summer.stopIn (Zone.yearOfSecond t)) ∧
    (Zone.isSummer standard summer (t - 1) = false → Zone.isSummer standard summer t = true →
      t = summer.startIn standard (Zone.yearOfSecond t)) := by
  rw [← Bool.not_eq_true, ← Bool.not_eq_true]
  -- within a year the rules decide; at its turn nothing changes
  rcases yearOfSecond_succ t with hyear | ⟨hyear, ht⟩
  · rw [isSummer_iff, isSummer_iff, hyear]
    split <;> omega
  · rw [h.isSummer_yearStart hyear ht]
    exact ⟨fun hsummer hnot => absurd hsummer hnot, fun hnot hsummer => absurd hsummer hnot⟩

omit h in
/-- Between two seconds that differ there are two that follow each other and differ as well. -/
theorem exists_flip {p : Int → Bool} (huv : u < v) (hp : p u = !p v) :
    ∃ t, u < t ∧ t ≤ v ∧ p (t - 1) = p u ∧ p t = p v := by
  obtain ⟨n, rfl⟩ : ∃ n : Nat, v = u + 1 + n := ⟨(v - u - 1).toNat, by omega⟩
  induction n with
  | zero => exact ⟨u + 1, by omega, by omega, by simp, by simp⟩
  | succ n ih =>
    -- either the last step changes something, or the change lies before it
    by_cases hlast : p (u + 1 + n) = p (u + 1 + (n + 1 : Nat))
    · rw [← hlast] at hp ⊢
      obtain ⟨t, hlow, hhigh, ht⟩ := ih (by omega) hp
      exact ⟨t, hlow, by omega, ht⟩
    · refine ⟨u + 1 + (n + 1 : Nat), huv, Int.le_refl _, ?_, rfl⟩
      have hprev : u + 1 + (n + 1 : Nat) - 1 = u + 1 + n := by omega
      rw [hprev, hp]
      exact Bool.eq_not.2 hlast

/-- Where summer is over, the clock was put back. -/
theorem exists_stop (huv : u < v) (hu : Zone.isSummer standard summer u = true)
    (hv : Zone.isSummer standard summer v = false) :
    ∃ t, u < t ∧ t ≤ v ∧ (t + summer.offset) % secondsPerDay = summer.ends.second := by
  obtain ⟨t, hlow, hhigh, hbefore, hafter⟩ :=
    exists_flip (p := Zone.isSummer standard summer) huv (by rw [hu, hv]; rfl)
  refine ⟨t, hlow, hhigh, ?_⟩
  have ht := h.isSummer_flip.1 (hbefore.trans hu) (hafter.trans hv)
  have := h.ends.second_nonneg
  have := h.ends.second_lt
  simp only [SummerTime.stopIn, secondsPerDay] at *
  omega

/-- Where summer has come, the clock was put forward. -/
theorem exists_start (huv : u < v) (hu : Zone.isSummer standard summer u = false)
    (hv : Zone.isSummer standard summer v = true) :
    ∃ t, u < t ∧ t ≤ v ∧ (t + standard) % secondsPerDay = summer.starts.second := by
  obtain ⟨t, hlow, hhigh, hbefore, hafter⟩ :=
    exists_flip (p := Zone.isSummer standard summer) huv (by rw [hu, hv]; rfl)
  refine ⟨t, hlow, hhigh, ?_⟩
  have ht := h.isSummer_flip.2 (hbefore.trans hu) (hafter.trans hv)
  have := h.starts.second_nonneg
  have := h.starts.second_lt
  simp only [SummerTime.startIn, secondsPerDay] at *
  omega

end IsSteady

end SummerTime

/-! ### Local days -/

namespace Zone

/-- The local day of a second. -/
def dayAt (zone : Zone) (t : Int) : Int := zone.wallAt t / secondsPerDay

/-- The zone has no summer time, or a steady one. -/
def IsSteady (zone : Zone) : Prop :=
  ∀ summer, zone.summer = some summer → summer.IsSteady zone.standard

variable {standard : Int} {summer : SummerTime} {zone : Zone} {t u v wall day : Int}
  {secondPass : Bool}

theorem wallAt_fixed : wallAt ⟨standard, none⟩ t = t + standard := rfl

theorem wallAt_summer : wallAt ⟨standard, some summer⟩ t =
    t + if isSummer standard summer t then summer.offset else standard := rfl

/-- **A later second does not lie in an earlier local day.** -/
theorem dayAt_mono (h : zone.IsSteady) (huv : u ≤ v) : zone.dayAt u ≤ zone.dayAt v := by
  obtain ⟨standard, _ | summer⟩ := zone
  · simp only [dayAt, wallAt_fixed, secondsPerDay]
    omega
  · have hsteady : summer.IsSteady standard := h summer rfl
    have := hsteady.ahead
    simp only [dayAt, wallAt_summer]
    cases hu : isSummer standard summer u <;> cases hv : isSummer standard summer v
    · simp only [secondsPerDay, Bool.false_eq_true, if_false]; omega
    · simp only [secondsPerDay, Bool.false_eq_true, if_false, if_true]; omega
    · -- the clock was put back, but the day is the same on both sides
      have hne : u ≠ v := by rintro rfl; rw [hu] at hv; cases hv
      obtain ⟨t, hlow, hhigh, ht⟩ := hsteady.exists_stop (by omega) hu hv
      have := hsteady.forward
      have := hsteady.back
      have := hsteady.starts.second_nonneg
      simp only [secondsPerDay, Bool.false_eq_true, if_false, if_true] at *
      omega
    · simp only [secondsPerDay, if_true]; omega

/-! ### Wall clocks -/

/-- The second at which a wall clock shows the given one, whatever the year. -/
def secondAt (zone : Zone) (wall : Int) (secondPass : Bool := false) : Int :=
  let first := wall - zone.offsetAt wall
  if zone.wallAt first = wall then
    let aside := if secondPass then first + secondsPerDay else first - secondsPerDay
    let other := zone.offsetAt aside
    if zone.offsetAt wall ≠ other ∧ zone.wallAt (wall - other) = wall then wall - other else first
  else
    let other := zone.offsetAt first
    if zone.wallAt (wall - other) = wall then wall - other
    else if secondPass then min first (wall - other) else max first (wall - other)

theorem wallAt?_eq_some {w : Int} (h : zone.wallAt? t = some w) :
    w = zone.wallAt t ∧ inRange (zone.wallAt t) = true := by
  unfold wallAt? at h
  simp only at h
  split at h
  · rename_i hrange
    cases h
    exact ⟨rfl, hrange⟩
  · cases h

/-- A second that is found is the one at which the clock shows what is asked for, and the clocks
that were looked at are in range. -/
theorem secondOf?_eq_some {s : Int} (h : zone.secondOf? wall secondPass = some s) :
    s = zone.secondAt wall secondPass ∧ inRange (zone.wallAt wall) = true ∧
      inRange (zone.wallAt (wall - zone.offsetAt wall)) = true := by
  obtain ⟨ahead, hahead, h⟩ := Option.bind_eq_some_iff.1 h
  obtain ⟨rfl, hrange⟩ := wallAt?_eq_some hahead
  have ha : zone.wallAt wall - wall = zone.offsetAt wall := by simp only [wallAt]; omega
  simp only [ha] at h
  obtain ⟨shown, hshown, h⟩ := Option.bind_eq_some_iff.1 h
  obtain ⟨rfl, hrange'⟩ := wallAt?_eq_some hshown
  refine ⟨?_, hrange, hrange'⟩
  have hoffset (t : Int) : zone.wallAt t - t = zone.offsetAt t := by simp only [wallAt]; omega
  unfold secondAt
  by_cases hfirst : zone.wallAt (wall - zone.offsetAt wall) = wall
  · simp only [if_pos hfirst] at h ⊢
    -- whichever day is looked at beside it
    generalize (if secondPass = true then wall - zone.offsetAt wall + secondsPerDay
      else wall - zone.offsetAt wall - secondsPerDay) = aside at h ⊢
    obtain ⟨b, hb, h⟩ := Option.bind_eq_some_iff.1 h
    obtain ⟨before, hbefore, rfl⟩ := Option.map_eq_some_iff.1 hb
    obtain ⟨rfl, -⟩ := wallAt?_eq_some hbefore
    simp only [hoffset, hfirst, true_and] at h
    split at h
    · rename_i hsame
      cases h
      rw [if_neg fun hne => hne.1 hsame]
    · rename_i hdiffer
      obtain ⟨shownThen, hthen, h⟩ := Option.bind_eq_some_iff.1 h
      obtain ⟨rfl, -⟩ := wallAt?_eq_some hthen
      split at h
      · rename_i hsecond
        cases h
        rw [if_pos ⟨hdiffer, hsecond⟩]
      · rename_i hsecond
        cases h
        rw [if_neg fun hne => hsecond hne.2]
  · simp only [if_neg hfirst] at h ⊢
    obtain ⟨b, hb, h⟩ := Option.bind_eq_some_iff.1 h
    cases hb
    simp only [hoffset, hfirst, false_and, if_false] at h
    obtain ⟨shownThen, hthen, h⟩ := Option.bind_eq_some_iff.1 h
    obtain ⟨rfl, -⟩ := wallAt?_eq_some hthen
    split at h
    · rename_i hsecond
      cases h
      rw [if_pos hsecond]
    · rename_i hsecond
      cases h
      rw [if_neg hsecond]

theorem inRange_iff : inRange t = true ↔ -62135596800 ≤ t ∧ t < 253402300800 := by
  have hfirst : firstSecond = -62135596800 := by decide
  have hend : endSecond = 253402300800 := by decide
  simp [inRange, hfirst, hend]

/-- A wall clock that shows the given reading under neither offset was put forward over it: summer
starts between the two seconds that were tried. -/
theorem skipped_of_not_shown (hahead : standard < summer.offset)
    (hother : wallAt ⟨standard, some summer⟩ (wall - offsetAt ⟨standard, some summer⟩
      (wall - offsetAt ⟨standard, some summer⟩ wall)) ≠ wall) :
    max (wall - offsetAt ⟨standard, some summer⟩ wall) (wall - offsetAt ⟨standard, some summer⟩
        (wall - offsetAt ⟨standard, some summer⟩ wall)) = wall - standard ∧
      min (wall - offsetAt ⟨standard, some summer⟩ wall) (wall - offsetAt ⟨standard, some summer⟩
        (wall - offsetAt ⟨standard, some summer⟩ wall)) = wall - summer.offset ∧
      isSummer standard summer (wall - standard) = true ∧
      isSummer standard summer (wall - summer.offset) = false := by
  have hoffset (t : Int) : offsetAt ⟨standard, some summer⟩ t =
    if isSummer standard summer t then summer.offset else standard := rfl
  simp only [wallAt, hoffset] at *
  -- the two offsets that were tried are the two offsets of the zone
  cases hw : isSummer standard summer wall <;>
    cases hstd : isSummer standard summer (wall - standard) <;>
    cases hoff : isSummer standard summer (wall - summer.offset) <;>
    simp only [hw, hstd, hoff, if_true, Bool.false_eq_true, if_false, and_true] at *
  all_goals omega

/-- The clock shows what is asked for, or it was put forward over it. -/
theorem secondAt_cases (h : zone.IsSteady) (wall : Int) (secondPass : Bool) :
    zone.wallAt (zone.secondAt wall secondPass) = wall ∨
      ∃ summer, zone.summer = some summer ∧
        zone.secondAt wall secondPass =
          wall - (if secondPass then summer.offset else zone.standard) ∧
        isSummer zone.standard summer (wall - zone.standard) = true ∧
        isSummer zone.standard summer (wall - summer.offset) = false := by
  unfold secondAt
  by_cases hfirst : zone.wallAt (wall - zone.offsetAt wall) = wall
  · refine .inl ?_
    simp only [if_pos hfirst]
    generalize zone.offsetAt (if secondPass = true then _ else _) = other
    split
    · rename_i hsecond
      exact hsecond.2
    · exact hfirst
  · simp only [if_neg hfirst]
    split
    · rename_i hsecond
      exact .inl hsecond
    · rename_i hsecond
      obtain ⟨standard, _ | summer⟩ := zone
      · refine absurd ?_ hfirst
        simp only [wallAt_fixed, offsetAt_fixed]; omega
      · obtain ⟨hmax, hmin, hskipped⟩ := skipped_of_not_shown (h summer rfl).ahead hsecond
        refine .inr ⟨summer, rfl, ?_, hskipped⟩
        cases secondPass with
        | false => exact hmax
        | true => exact hmin

/-- In the first pass, a time that is skipped is read with the standard offset. -/
theorem secondAt_first_cases (h : zone.IsSteady) (wall : Int) :
    zone.wallAt (zone.secondAt wall) = wall ∨
      ∃ summer, zone.summer = some summer ∧ zone.secondAt wall = wall - zone.standard ∧
        isSummer zone.standard summer (wall - zone.standard) = true ∧
        isSummer zone.standard summer (wall - summer.offset) = false :=
  secondAt_cases h wall false

theorem offsetAt_bounds {summer : SummerTime} (h : summer.IsSteady zone.standard)
    (hsummer : zone.summer = some summer) (t : Int) :
    -secondsPerDay < zone.offsetAt t ∧ zone.offsetAt t < secondsPerDay := by
  have := h.west
  have := h.east
  have := h.ahead
  rcases offsetAt_mem hsummer t with ht | ht <;> omega

/-- Where a wall clock can be read, the offsets of the zone are small, and so is the second. -/
theorem secondOf?_bounds (h : zone.IsSteady) {s : Int}
    (hs : zone.secondOf? wall secondPass = some s) :
    |s| ≤ 1000000000000 ∧ ∀ t, |zone.offsetAt t| ≤ 400000000000 := by
  obtain ⟨rfl, hwall, hfirst⟩ := secondOf?_eq_some hs
  rw [inRange_iff] at hwall hfirst
  simp only [abs_le]
  have hcases := secondAt_cases h wall secondPass
  cases hsummer : zone.summer with
  | none =>
    have hoffset (t : Int) : zone.offsetAt t = zone.standard := by simp only [offsetAt, hsummer]
    simp only [wallAt, hoffset, hsummer, reduceCtorEq, false_and, exists_false, or_false] at *
    exact ⟨by omega, fun _ => by omega⟩
  | some summer =>
    have hbounds := offsetAt_bounds (h summer hsummer) hsummer
    have := (h summer hsummer).west
    have := (h summer hsummer).east
    have := (h summer hsummer).ahead
    simp only [wallAt, secondsPerDay] at *
    refine ⟨?_, fun t => ?_⟩
    · have := hbounds wall
      have := hbounds (zone.secondAt wall secondPass)
      rcases hcases with hshown | ⟨other, hother, hgap, -⟩
      · omega
      · cases hsummer.symm.trans hother
        cases secondPass <;> simp at hgap <;> omega
    · have := hbounds t
      omega

/-- **The second at which a clock shows something lies in the day it shows.** -/
theorem dayAt_secondAt (h : zone.IsSteady) (wall : Int) :
    zone.dayAt (zone.secondAt wall) = wall / secondsPerDay := by
  rcases secondAt_first_cases h wall with hshown | ⟨summer, hsummer, hs, hlater, hearlier⟩
    -- the clock shows what was asked for
  · rw [dayAt, hshown]
  · have hsteady := h summer hsummer
    have := hsteady.ahead
    obtain ⟨t, hlow, hhigh, ht⟩ := hsteady.exists_start (by omega) hearlier hlater
    have := hsteady.forward
    have hwall : zone.wallAt (wall - zone.standard) = wall - zone.standard + summer.offset := by
      simp [wallAt, offsetAt, hsummer, hlater]
    rw [dayAt, hs, hwall]
    simp only [secondsPerDay] at *
    omega

/-- In either pass, the second at which a clock shows something lies in no later day. -/
theorem dayAt_secondAt_le (h : zone.IsSteady) (wall : Int) (secondPass : Bool) :
    zone.dayAt (zone.secondAt wall secondPass) ≤ wall / secondsPerDay := by
  cases secondPass with
  | false => exact (dayAt_secondAt h wall).le
  | true =>
    rcases secondAt_cases h wall true with hshown | ⟨summer, hsummer, hs, -, hearlier⟩
    · rw [dayAt, hshown]
    · -- before the gap, the clock shows an earlier time than was asked for
      have := (h summer hsummer).ahead
      have hwall : zone.wallAt (wall - summer.offset) = wall - summer.offset + zone.standard := by
        simp [wallAt, offsetAt, hsummer, hearlier]
      rw [dayAt, hs, if_pos rfl, hwall]
      simp only [secondsPerDay]
      omega

/-- What is before a second at which the clock shows a midnight lies in an earlier local day. -/
theorem dayAt_lt_of_shown {s : Int} (h : zone.IsSteady)
    (hshown : zone.wallAt s = day * secondsPerDay) (hu : u < s) : zone.dayAt u < day := by
  obtain ⟨standard, _ | summer⟩ := zone
  · simp only [dayAt, wallAt_fixed, secondsPerDay] at *
    omega
  · have hsteady : summer.IsSteady standard := h summer rfl
    have := hsteady.ahead
    simp only [dayAt, wallAt_summer] at *
    cases hsu : isSummer standard summer u <;> cases hss : isSummer standard summer s <;>
      simp only [hss, Bool.false_eq_true, if_false, if_true] at hshown ⊢
    · simp only [secondsPerDay] at *; omega
    · simp only [secondsPerDay] at *; omega
    · -- the clock was put back in between, but not over the midnight
      obtain ⟨t, hlow, hhigh, ht⟩ := hsteady.exists_stop hu hsu hss
      have := hsteady.forward
      have := hsteady.back
      have := hsteady.starts.second_nonneg
      simp only [secondsPerDay] at *
      omega
    · simp only [secondsPerDay] at *; omega

/-- What is before a midnight over which the clock is put forward lies in an earlier local day. -/
theorem dayAt_lt_of_skipped (hsteady : summer.IsSteady zone.standard)
    (hsummer : zone.summer = some summer)
    (hearlier : isSummer zone.standard summer (day * secondsPerDay - summer.offset) = false)
    (hu : u < day * secondsPerDay - zone.standard) : zone.dayAt u < day := by
  have hahead := hsteady.ahead
  have hforward := hsteady.forward
  have hoffset : zone.offsetAt u =
      if isSummer zone.standard summer u then summer.offset else zone.standard := by
    simp only [offsetAt, hsummer]
  simp only [dayAt, wallAt, hoffset]
  cases hsu : isSummer zone.standard summer u with
  | false => simp only [Bool.false_eq_true, if_false, secondsPerDay] at *; omega
  | true =>
    -- summer starts at the midnight itself, so a time of summer before it is of the last one
    have hearly : u ≤ day * secondsPerDay - summer.offset := by
      by_contra hlate
      obtain ⟨t, hlow, hhigh, ht⟩ := hsteady.exists_start (Int.not_le.1 hlate) hearlier hsu
      simp only [secondsPerDay] at *
      omega
    have hne : u ≠ day * secondsPerDay - summer.offset := by
      rintro rfl
      rw [hearlier] at hsu
      cases hsu
    simp only [if_true, secondsPerDay] at *
    omega

/-- What is before the second of a midnight lies in an earlier local day. -/
theorem dayAt_lt_of_lt (h : zone.IsSteady) (hu : u < zone.secondAt (day * secondsPerDay)) :
    zone.dayAt u < day := by
  rcases secondAt_first_cases h (day * secondsPerDay) with
    hshown | ⟨summer, hsummer, hs, -, hearlier⟩
  · exact dayAt_lt_of_shown h hshown hu
  · rw [hs] at hu
    exact dayAt_lt_of_skipped (h summer hsummer) hsummer hearlier hu

/-- **A local day starts at the second of its midnight.** -/
theorem secondAt_midnight_le_iff (h : zone.IsSteady) :
    zone.secondAt (day * secondsPerDay) ≤ u ↔ day ≤ zone.dayAt u := by
  constructor
  · intro hu
    have hday := dayAt_secondAt h (day * secondsPerDay)
    rw [Int.mul_ediv_cancel _ (by decide)] at hday
    rw [← hday]
    exact dayAt_mono h hu
  · intro hday
    by_contra hu
    have := dayAt_lt_of_lt h (Int.not_le.1 hu)
    omega

/-- The local date of a second is that of its local day. -/
theorem localDate?_eq_some {d : Date} (h : (Instant.ofSecond t).localDate? zone = some d) :
    d = .ofDayNumber (zone.dayAt t) ∧ inRange (zone.wallAt t) = true := by
  obtain ⟨wall, hwall, h⟩ := Option.bind_eq_some_iff.1 h
  rw [Instant.second_ofSecond] at hwall
  obtain ⟨rfl, hrange⟩ := wallAt?_eq_some hwall
  cases h
  exact ⟨rfl, hrange⟩

/-! ### Supported zones -/

/-- The zone text of a summer in the middle of the year. -/
def northernText : List Char := "EST5EDT,M3.2.0,M11.1.0".toList

/-- The zone text of a summer over the turn of the year; its clock is put forward at midnight. -/
def southernText : List Char := "<-03>3<-02>,M10.3.0/0,M2.3.0/0".toList

/-- The zones that are supported: those at a fixed offset, and two with summer time. -/
def IsSupported (zone : Zone) : Prop :=
  zone.summer = none ∨ ofText? northernText = some zone ∨ ofText? southernText = some zone

theorem ofText?_northernText : ofText? northernText =
    some ⟨-18000, some ⟨-14400, ⟨3, 2, 0, 7200⟩, ⟨11, 1, 0, 7200⟩⟩⟩ := by
  decide +kernel

theorem ofText?_southernText : ofText? southernText =
    some ⟨-10800, some ⟨-7200, ⟨10, 3, 0, 0⟩, ⟨2, 3, 0, 0⟩⟩⟩ := by
  decide +kernel

theorem IsSupported.isSteady (h : zone.IsSupported) : zone.IsSteady := by
  intro summer hsummer
  rcases h with h | h | h
  · rw [h] at hsummer
    cases hsummer
  · rw [ofText?_northernText] at h
    cases h
    cases hsummer
    constructor <;> first | decide | (constructor <;> decide)
  · rw [ofText?_southernText] at h
    cases h
    cases hsummer
    constructor <;> first | decide | (constructor <;> decide)

end Zone

end FileSieve.Calendar
