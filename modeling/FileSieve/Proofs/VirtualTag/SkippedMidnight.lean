import FileSieve.Proofs.VirtualTag.DateWindow

/-!
# Midnights that are skipped

A day starts at an instant that is worked out in two places: when a date is read, as the midnight of
the date, and when the window of a keyword is asked for, as the start of a day on the local clock.
They are the same where the clock shows the midnight. Where the clock is put forward over it, the
midnight of the date is too early by as much as the clock is put forward.

* `Zone.wallAt_secondAt_iff`: what the clock shows at some time, it shows at the second of it.
* `Zone.midnight?_eq_some_iff`: the midnight of a date is found by the offset at its second.
* `Zone.midnight?_of_shown`: it is that second where the clock shows it.
* `Zone.midnight_of_skipped`: a midnight that is skipped is put into the day before.
* `dayStart_eq_midnight_iff`: where the two starts of a day agree.
-/

namespace FileSieve.Calendar

namespace Zone

variable {zone : Zone} {d : Date} {start : Instant} {wall : Int}

/-! ### What a clock shows -/

/-- The clock shows the reading at some time. -/
def Shows (zone : Zone) (wall : Int) : Prop := ∃ s, zone.wallAt s = wall

/-- **What the clock shows at some time, it shows at the second of it.** -/
theorem wallAt_secondAt_iff (h : zone.IsSteady) :
    zone.wallAt (zone.secondAt wall) = wall ↔ zone.Shows wall := by
  refine ⟨fun hshown => ⟨_, hshown⟩, ?_⟩
  rintro ⟨s, hs⟩
  rcases secondAt_first_cases h wall with hshown | ⟨summer, hsummer, -, hlater, hearlier⟩
  · exact hshown
  · -- a clock that shows it would do so by one of the two offsets, at a time of the other one
    exfalso
    rcases hflag : isSummer zone.standard summer s
    · have hoffset : zone.offsetAt s = zone.standard := by simp [offsetAt, hsummer, hflag]
      have heq : s = wall - zone.standard := by rw [wallAt] at hs; omega
      rw [heq, hlater] at hflag
      cases hflag
    · have hoffset : zone.offsetAt s = summer.offset := by simp [offsetAt, hsummer, hflag]
      have heq : s = wall - summer.offset := by rw [wallAt] at hs; omega
      rw [heq, hearlier] at hflag
      cases hflag

/-! ### Midnights of dates -/

theorem midnight?_eq_some_iff : zone.midnight? d = some start ↔
    let midnight := d.dayNumber * secondsPerDay
    let t := midnight - zone.offsetAt (zone.secondAt midnight)
    (∃ s, zone.secondOf? midnight = some s) ∧ start = .ofSecond t ∧ inRange t = true ∧
      inRange (zone.wallAt t) = true := by
  constructor
  · intro h
    obtain ⟨near, hnear, h⟩ := Option.bind_eq_some_iff.1 h
    refine ⟨⟨near, hnear⟩, ?_⟩
    rw [(secondOf?_eq_some hnear).1] at h
    simp only at h
    split at h
    · rename_i hrange
      cases h
      exact ⟨rfl, Bool.and_eq_true_iff.1 hrange⟩
    · cases h
  · rintro ⟨⟨near, hnear⟩, rfl, hrange, hwall⟩
    refine Option.bind_eq_some_iff.2 ⟨near, hnear, ?_⟩
    rw [(secondOf?_eq_some hnear).1]
    exact if_pos (Bool.and_eq_true_iff.2 ⟨hrange, hwall⟩)

/-- A midnight that was found is the one by the offset at its second. -/
theorem second_of_midnight? (h : zone.midnight? d = some start) :
    let midnight := d.dayNumber * secondsPerDay
    start = .ofSecond (midnight - zone.offsetAt (zone.secondAt midnight)) ∧
      inRange (midnight - zone.offsetAt (zone.secondAt midnight)) = true := by
  obtain ⟨-, hstart, hrange, -⟩ := midnight?_eq_some_iff.1 h
  exact ⟨hstart, hrange⟩

/-- **A midnight that the clock shows starts its date at the second of it.** -/
theorem midnight?_of_shown (hzone : zone.IsSteady)
    (hshown : zone.Shows (d.dayNumber * secondsPerDay)) :
    zone.midnight? d = some start ↔
      let midnight := d.dayNumber * secondsPerDay
      (∃ s, zone.secondOf? midnight = some s) ∧ start = .ofSecond (zone.secondAt midnight) ∧
        inRange (zone.secondAt midnight) = true ∧ inRange midnight = true := by
  have hwall := (wallAt_secondAt_iff hzone).2 hshown
  -- the offset at the second leads back to it
  have hback : d.dayNumber * secondsPerDay -
      zone.offsetAt (zone.secondAt (d.dayNumber * secondsPerDay)) =
        zone.secondAt (d.dayNumber * secondsPerDay) := by
    rw [wallAt] at hwall
    omega
  rw [midnight?_eq_some_iff]
  simp only [hback, hwall]

/-- **A midnight that is skipped is put into the day before**, as long before the end of the gap as
the clock is put forward. -/
theorem midnight_of_skipped (hzone : zone.IsSteady) (h : zone.midnight? d = some start)
    (hskipped : ¬ zone.Shows (d.dayNumber * secondsPerDay)) :
    ∃ summer, zone.summer = some summer ∧
      start.second = zone.secondAt (d.dayNumber * secondsPerDay) -
        (summer.offset - zone.standard) ∧
      zone.dayAt start.second = d.dayNumber - 1 := by
  rw [← wallAt_secondAt_iff hzone] at hskipped
  obtain ⟨rfl, -⟩ := second_of_midnight? h
  rcases secondAt_first_cases hzone (d.dayNumber * secondsPerDay) with
    hshown | ⟨summer, hsummer, hs, hlater, hearlier⟩
  · exact absurd hshown hskipped
  · have hsteady := hzone summer hsummer
    have hahead := hsteady.ahead
    have hforward := hsteady.forward
    have hnonneg := hsteady.starts.second_nonneg
    -- the offset at the end of the gap is that of summer, which has not begun where it leads to
    have hend : zone.offsetAt (d.dayNumber * secondsPerDay - zone.standard) = summer.offset := by
      simp [offsetAt, hsummer, hlater]
    have hback : zone.offsetAt (d.dayNumber * secondsPerDay - summer.offset) = zone.standard := by
      simp [offsetAt, hsummer, hearlier]
    refine ⟨summer, hsummer, ?_, ?_⟩
    · rw [Instant.second_ofSecond, hs, hend]
      omega
    · rw [Instant.second_ofSecond, hs, hend, dayAt, wallAt, hback]
      simp only [secondsPerDay] at *
      omega

/-- In the zones that are supported, a midnight is only skipped where summer starts at one, and
then the clock is put forward by an hour. -/
theorem southern_of_skipped (hzone : zone.IsSupported) {day : Int}
    (hskipped : ¬ zone.Shows (day * secondsPerDay)) :
    ofText? southernText = some zone ∧
      ∀ summer, zone.summer = some summer → summer.offset - zone.standard = 3600 := by
  have hshows (h : zone.ShowsMidnights) : zone.Shows (day * secondsPerDay) :=
    ⟨_, wallAt_secondAt_midnight h⟩
  rcases hzone with hfixed | hnorthern | hsouthern
  · exact absurd (hshows (showsMidnights_of_fixed hfixed)) hskipped
  · exact absurd (hshows (showsMidnights_of_northern hnorthern)) hskipped
  · refine ⟨hsouthern, fun summer hsummer => ?_⟩
    rw [ofText?_southernText] at hsouthern
    cases hsouthern
    cases hsummer
    rfl

end Zone

variable {zone : Zone} {now : Reading} {d : Date} {start : Instant} {x : Binary64}

/-! ### Two starts of a day -/

/-- **The midnight of a date is the start of its day exactly where the clock shows it.** That is so
in all supported zones, but for the midnights at which the summer of the southern zone starts: there
the midnight of the date is an hour before the start of the day, and lies in the day before. -/
theorem dayStart_eq_midnight_iff (hzone : zone.IsSupported) (hlocal : now.offset = none)
    (hstart : zone.midnight? d = some start) (hday : now.dayStart zone d.dayNumber = .ok x) :
    (x = start.timestamp ↔ zone.Shows (d.dayNumber * secondsPerDay)) ∧
      (¬ zone.Shows (d.dayNumber * secondsPerDay) →
        Zone.ofText? Zone.southernText = some zone ∧
          x = .finite (start.second + 3600 : Int) ∧ zone.dayAt start.second = d.dayNumber - 1) := by
  have hsteady := hzone.isSteady
  obtain ⟨hx, -⟩ := Reading.dayStart_eq_ok hsteady hlocal hday
  obtain ⟨hsecond, hrange⟩ := Zone.second_of_midnight? hstart
  refine ⟨?_, fun hskipped => ?_⟩
  · -- both are whole seconds, and they differ by what the clock does not show
    rw [← Zone.wallAt_secondAt_iff hsteady, hx, hsecond, Instant.timestamp_of_inRange hrange,
      Binary64.finite.injEq, Int.cast_inj, Zone.wallAt]
    omega
  · obtain ⟨summer, hsummer, hshift, hbefore⟩ :=
      Zone.midnight_of_skipped hsteady hstart hskipped
    obtain ⟨hsouthern, hhour⟩ := Zone.southern_of_skipped hzone hskipped
    refine ⟨hsouthern, ?_, hbefore⟩
    rw [hx, hshift, hhour summer hsummer, Int.sub_add_cancel]

/-- The midnight of 2024-10-20 in the southern zone, where summer starts then: an hour before the
start of the day. -/
theorem dayStart_of_skipped_midnight :
    let zone : Zone := ⟨-10800, some ⟨-7200, ⟨10, 3, 0, 0⟩, ⟨2, 3, 0, 0⟩⟩⟩
    let now : Reading := ⟨1729425600000000, none, false⟩
    let d : Date := ⟨2024, 10, 20⟩
    zone.midnight? d = some (.ofSecond 1729389600) ∧
      now.dayStart zone d.dayNumber = .ok (.finite 1729393200) ∧
      ¬ zone.Shows (d.dayNumber * secondsPerDay) ∧
      zone.dayAt 1729389600 = d.dayNumber - 1 := by
  intro zone now d
  have hstart : zone.midnight? d = some (.ofSecond 1729389600) := by decide +kernel
  have hday : now.dayStart zone d.dayNumber = .ok (.finite 1729393200) := by decide +kernel
  obtain ⟨hiff, hskipped⟩ :=
    dayStart_eq_midnight_iff (.inr (.inr Zone.ofText?_southernText)) rfl hstart hday
  have hnot : ¬ zone.Shows (d.dayNumber * secondsPerDay) := by
    rw [← hiff]
    decide +kernel
  exact ⟨hstart, hday, hnot, (hskipped hnot).2.2⟩

/-- The two starts of a day do not always agree: the clock of the southern zone skips the midnight
of 2024-10-20. -/
theorem not_dayStart_eq_midnight :
    ¬ ∀ (zone : Zone) (now : Reading) (d : Date) (start : Instant) (x : Binary64),
      zone.IsSupported → now.offset = none → zone.midnight? d = some start →
        now.dayStart zone d.dayNumber = .ok x → x = start.timestamp := by
  intro hall
  let zone : Zone := ⟨-10800, some ⟨-7200, ⟨10, 3, 0, 0⟩, ⟨2, 3, 0, 0⟩⟩⟩
  let now : Reading := ⟨1729425600000000, none, false⟩
  have heq : (.finite 1729393200 : Binary64) = (Instant.ofSecond 1729389600).timestamp :=
    hall zone now ⟨2024, 10, 20⟩ (.ofSecond 1729389600) (.finite 1729393200)
      (.inr (.inr Zone.ofText?_southernText)) rfl (by decide +kernel) (by decide +kernel)
  exact absurd heq (by decide +kernel)

end FileSieve.Calendar
