import FileSieve.Proofs.Calendar.Clock
import FileSieve.Proofs.VirtualTag.SkippedMidnight

/-!
# Windows of dates in zones with summer time

A window tells its instants by their local dates, so that it is read again from its text when they
are midnights. The window of a single date ends after 24 hours, which is a midnight unless the clock
is put forward or back on that day: days on which it is have 23 or 25 hours.

* `Zone.Starts.isMidnight`: where the clock shows a midnight, it is that of its own date.
* `Zone.isMidnight_nextDay_iff`: when 24 hours after a midnight there is another one.
* `VirtualTag.read_text_iff_dayLength`: the windows of dates that are read again from their texts.
-/

namespace FileSieve

open Text Calendar

namespace Calendar

variable {zone : Zone} {d e : Date} {start stop : Instant} {t : Int}

/-! ### Local dates -/

theorem Zone.localDate?_ofSecond_iff : (Instant.ofSecond t).localDate? zone = some d ↔
    d = .ofDayNumber (zone.dayAt t) ∧ Zone.inRange (zone.wallAt t) = true := by
  refine ⟨Zone.localDate?_eq_some, ?_⟩
  rintro ⟨rfl, hrange⟩
  unfold Instant.localDate?
  rw [Instant.second_ofSecond, Zone.wallAt?_of_inRange hrange]
  rfl

/-- The local date of an instant can be written. -/
theorem Instant.isValid_of_localDate? {i : Instant} (h : i.localDate? zone = some d) :
    d.isValid = true := by
  obtain ⟨wall, hwall, h⟩ := Option.bind_eq_some_iff.1 h
  obtain ⟨rfl, hrange⟩ := Zone.wallAt?_eq_some hwall
  cases h
  exact isValid_ofDayNumber hrange

/-! ### Midnights that the clock shows -/

namespace Zone

/-- A date starts at the second at which the clock shows its midnight. -/
theorem Starts.eq_of_shown (hzone : zone.IsSteady) (h : zone.Starts d start)
    (hshown : zone.Shows (d.dayNumber * secondsPerDay)) :
    start = .ofSecond (zone.secondAt (d.dayNumber * secondsPerDay)) :=
  ((midnight?_of_shown hzone hshown).1 h.midnight).2.1

theorem Starts.localDate? (hzone : zone.IsSteady) (h : zone.Starts d start)
    (hshown : zone.Shows (d.dayNumber * secondsPerDay)) : start.localDate? zone = some d := by
  obtain ⟨-, rfl, -, hrange⟩ := (midnight?_of_shown hzone hshown).1 h.midnight
  exact localDate?_of_wallAt h.exists ((wallAt_secondAt_iff hzone).2 hshown) hrange

/-- **Where the clock shows a midnight, it is that of its own date.** -/
theorem Starts.isMidnight (hzone : zone.IsSteady) (h : zone.Starts d start)
    (hshown : zone.Shows (d.dayNumber * secondsPerDay)) : start.IsMidnight zone := by
  intro e he
  cases (h.localDate? hzone hshown).symm.trans he
  exact ⟨h.valid, h.midnight⟩

theorem Starts.dateText (hzone : zone.IsSteady) (h : zone.Starts d start)
    (hshown : zone.Shows (d.dayNumber * secondsPerDay)) :
    TimeWindow.dateText zone start = .ok d.text := by
  unfold TimeWindow.dateText
  rw [h.localDate? hzone hshown]

/-! ### The next day -/

/-- The seconds from the start of a local day to that of the next one. -/
def dayLength (zone : Zone) (day : Int) : Int :=
  zone.secondAt ((day + 1) * secondsPerDay) - zone.secondAt (day * secondsPerDay)

/-- The zone is one of the supported ones with summer time. -/
def IsSeasonal (zone : Zone) : Prop :=
  ofText? northernText = some zone ∨ ofText? southernText = some zone

theorem IsSeasonal.isSteady (h : zone.IsSeasonal) : zone.IsSteady := IsSupported.isSteady (.inr h)

/-- The zones with summer time are two to five hours to the west. -/
theorem IsSeasonal.offsetAt_bounds (h : zone.IsSeasonal) (t : Int) :
    -18000 ≤ zone.offsetAt t ∧ zone.offsetAt t ≤ -7200 := by
  rcases h with h | h
  · rw [ofText?_northernText] at h
    cases h
    simp only [offsetAt]
    split <;> decide
  · rw [ofText?_southernText] at h
    cases h
    simp only [offsetAt]
    split <;> decide

/-- The very first date has no midnight that is found, as no day before it can be looked at. -/
theorem IsSeasonal.midnight?_first (h : zone.IsSeasonal) : zone.midnight? ⟨1, 1, 1⟩ = none := by
  rcases h with h | h
  · rw [ofText?_northernText] at h
    cases h
    decide +kernel
  · rw [ofText?_southernText] at h
    cases h
    decide +kernel

/-- What is known of the 24 hours after a midnight: neither the day itself nor the next one is at
the ends of the calendar, and one of the two is the local day when they are over. -/
theorem IsSeasonal.nextDay_bounds (hzone : zone.IsSeasonal) (hstart : zone.Starts d start)
    (hnext : start.nextDay? = some stop) (hshown : zone.Shows (d.dayNumber * secondsPerDay)) :
    let s := zone.secondAt (d.dayNumber * secondsPerDay)
    stop = .ofSecond (s + secondsPerDay) ∧ inRange (s + secondsPerDay) = true ∧
      inRange (zone.wallAt (s + secondsPerDay)) = true ∧
      firstSecond + secondsPerDay ≤ d.dayNumber * secondsPerDay ∧
      (d.dayNumber + 1) * secondsPerDay + secondsPerDay ≤ endSecond ∧
      (zone.dayAt (s + secondsPerDay) = d.dayNumber ∨
        zone.dayAt (s + secondsPerDay) = d.dayNumber + 1) := by
  intro s
  have hshow := (wallAt_secondAt_iff hzone.isSteady).2 hshown
  obtain ⟨-, rfl, -, hrange⟩ := (midnight?_of_shown hzone.isSteady hshown).1 hstart.midnight
  obtain ⟨hstop, hlast⟩ := nextDay?_ofSecond_iff.1 hnext
  have hne : d.dayNumber ≠ Date.firstDay := by
    intro heq
    have hfirst : d = ⟨1, 1, 1⟩ :=
      (Date.eq_iff_dayNumber_eq hstart.exists (by decide)).2 (heq.trans (by decide))
    have hmidnight := hstart.midnight
    rw [hfirst, hzone.midnight?_first] at hmidnight
    cases hmidnight
  have hfirstSecond : firstSecond = -62135596800 := by decide
  have hendSecond : endSecond = 253402300800 := by decide
  have hoffset := hzone.offsetAt_bounds s
  have hoffset' := hzone.offsetAt_bounds (s + secondsPerDay)
  change zone.wallAt s = _ at hshow
  change inRange (s + secondsPerDay) = true at hlast
  refine ⟨hstop, hlast, ?_⟩
  rw [inRange_iff] at hrange hlast ⊢
  simp only [dayAt, wallAt, secondsPerDay, Date.firstDay] at *
  omega

/-- A second of a day away from the ends of the calendar is found. -/
theorem IsSeasonal.exists_secondOf? (hzone : zone.IsSeasonal) {wall : Int}
    (hlow : firstSecond + 2 * secondsPerDay ≤ wall) (hhigh : wall + secondsPerDay ≤ endSecond) :
    ∃ s, zone.secondOf? wall = some s := by
  have hday : secondsPerDay = 86400 := rfl
  refine exists_secondOf?_of_bounds hzone.offsetAt_bounds (by omega) (by omega) ?_ ?_ <;>
    simp only [Bool.false_eq_true, if_false] <;> omega

/-- **When 24 hours after a midnight there is another one**: that is so if the day has 24 hours. -/
theorem isMidnight_nextDay_iff (hzone : zone.IsSeasonal) (hstart : zone.Starts d start)
    (hnext : start.nextDay? = some stop) (hshown : zone.Shows (d.dayNumber * secondsPerDay))
    (hshown' : zone.Shows ((d.dayNumber + 1) * secondsPerDay)) :
    stop.IsMidnight zone ↔ zone.dayLength d.dayNumber = secondsPerDay := by
  obtain ⟨rfl, hrange, hwall, hlow, hhigh, hday⟩ := hzone.nextDay_bounds hstart hnext hshown
  generalize hs : zone.secondAt (d.dayNumber * secondsPerDay) = s at *
  have hnumber := Date.dayNumber_ofDayNumber (zone.dayAt (s + secondsPerDay))
  rw [dayLength, hs]
  constructor
  · intro hmidnight
    obtain ⟨hvalid, hfound⟩ := hmidnight _ (localDate?_ofSecond_iff.2 ⟨rfl, hwall⟩)
    have hstarts : zone.Starts (.ofDayNumber (zone.dayAt (s + secondsPerDay)))
        (.ofSecond (s + secondsPerDay)) := ⟨hvalid, hfound⟩
    have hsecond (hshows : zone.Shows (zone.dayAt (s + secondsPerDay) * secondsPerDay)) :
        s + secondsPerDay = zone.secondAt (zone.dayAt (s + secondsPerDay) * secondsPerDay) := by
      rw [← hnumber] at hshows
      have heq := congrArg Instant.second (hstarts.eq_of_shown hzone.isSteady hshows)
      rwa [Instant.second_ofSecond, Instant.second_ofSecond, hnumber] at heq
    rcases hday with hsame | hnextDay
    · -- the midnight of the day itself is over
      rw [hsame] at hsecond
      have := hsecond hshown
      simp only [secondsPerDay] at *
      omega
    · rw [hnextDay] at hsecond
      have := hsecond hshown'
      omega
  · intro hlength e he
    have hsecond : zone.secondAt ((d.dayNumber + 1) * secondsPerDay) = s + secondsPerDay := by
      omega
    have hdayAt : zone.dayAt (s + secondsPerDay) = d.dayNumber + 1 := by
      rw [← hsecond, dayAt_secondAt hzone.isSteady, Int.mul_ediv_cancel _ (by decide)]
    obtain ⟨rfl, -⟩ := localDate?_ofSecond_iff.1 he
    rw [hdayAt] at hnumber ⊢
    refine ⟨hdayAt ▸ Instant.isValid_of_localDate? he, ?_⟩
    rw [midnight?_of_shown hzone.isSteady (by rwa [hnumber])]
    simp only [hnumber, hsecond, true_and]
    refine ⟨hzone.exists_secondOf? ?_ hhigh, hrange, ?_⟩
    · simp only [secondsPerDay] at *
      omega
    · have hfirstSecond : firstSecond = -62135596800 := by decide
      have hendSecond : endSecond = 253402300800 := by decide
      rw [inRange_iff]
      simp only [secondsPerDay] at *
      omega

/-- Where a window of a single date ends, there is a date. -/
theorem exists_dateText_nextDay (hzone : zone.IsSeasonal) (hstart : zone.Starts d start)
    (hnext : start.nextDay? = some stop) (hshown : zone.Shows (d.dayNumber * secondsPerDay)) :
    ∃ text, TimeWindow.dateText zone stop = .ok text := by
  obtain ⟨rfl, -, hwall, -⟩ := hzone.nextDay_bounds hstart hnext hshown
  unfold TimeWindow.dateText
  rw [localDate?_ofSecond_iff.2 ⟨rfl, hwall⟩]
  exact ⟨_, rfl⟩

end Zone

end Calendar

namespace VirtualTag

variable {zone : Zone} {s t value : List Char} {i start stop : Instant} {window : TimeWindow}
  {test : DayTest} {kind : Kind} {tag : VirtualTag}

/-! ### Windows -/

/-- **An instant is read again from its date when it is the midnight of it.** -/
theorem readDate_dateText_iff (h : TimeWindow.dateText zone i = .ok s) :
    readDate zone s = .ok i ↔ i.IsMidnight zone := by
  refine ⟨fun hread d hd => ?_, fun hi => readDate_dateText hi h⟩
  obtain ⟨e, he, rfl⟩ := dateText_eq_ok h
  cases hd.symm.trans he
  have hvalid := Instant.isValid_of_localDate? hd
  exact ⟨hvalid, (starts_of_readDate (Date.ofText?_text hvalid) hread).midnight⟩

theorem readWindow_between_iff (hs : TimeWindow.dateText zone start = .ok s)
    (ht : TimeWindow.dateText zone stop = .ok t) :
    readWindow zone ("between-".toList ++ (s ++ '-' :: t)) = .ok (.between start stop) ↔
      start.IsMidnight zone ∧ stop.IsMidnight zone := by
  rw [readWindow_between, readBetween_threeParts (hasThreeParts_of_dateText hs)
    (hasThreeParts_of_dateText ht), ← readDate_dateText_iff hs, ← readDate_dateText_iff ht]
  constructor
  · intro h
    obtain ⟨first, hfirst, h⟩ := bind_eq_ok_iff.1 h
    obtain ⟨next, hnext, h⟩ := bind_eq_ok_iff.1 h
    cases h
    exact ⟨hfirst, hnext⟩
  · rintro ⟨hfirst, hnext⟩
    rw [hfirst, hnext]
    rfl

end VirtualTag

namespace DayTest

variable {zone : Zone} {test : DayTest} {window : TimeWindow}

/-- The days whose midnights the text of the window names; for a single date the next one too. -/
def days : DayTest → List Int
  | .since first => [first.dayNumber]
  | .until next => [next.dayNumber]
  | .between first next => [first.dayNumber, next.dayNumber]
  | .on date => [date.dayNumber, date.dayNumber + 1]

/-- A single date is one of a day of 24 hours. -/
def IsWhole (zone : Zone) (test : DayTest) : Prop :=
  ∀ date, test = .on date → zone.dayLength date.dayNumber = secondsPerDay

/-- A window between midnights that the clock shows has a text. -/
theorem exists_text_of_shown (hzone : zone.IsSeasonal) (h : test.Bounds zone window)
    (hshown : ∀ day ∈ test.days, zone.Shows (day * secondsPerDay)) :
    ∃ text, window.text zone = .ok text := by
  have htext {e : Date} {start : Instant} (he : zone.Starts e start)
      (hday : e.dayNumber ∈ test.days) : TimeWindow.dateText zone start = .ok e.text :=
    he.dateText hzone.isSteady (hshown _ hday)
  cases h with
  | since hfirst =>
    simp only [TimeWindow.text, htext hfirst (by simp [days])]
    exact ⟨_, rfl⟩
  | «until» hnext =>
    simp only [TimeWindow.text, htext hnext (by simp [days])]
    exact ⟨_, rfl⟩
  | between hfirst hnext =>
    simp only [TimeWindow.text, htext hfirst (by simp [days]), htext hnext (by simp [days])]
    exact ⟨_, rfl⟩
  | on hdate hstop =>
    obtain ⟨text, hstop⟩ :=
      Zone.exists_dateText_nextDay hzone hdate hstop (hshown _ (by simp [days]))
    simp only [TimeWindow.text, htext hdate (by simp [days]), hstop]
    exact ⟨_, rfl⟩

/-- **A window of dates is read again from its text**, unless it is that of a single day of another
length than 24 hours. -/
theorem readWindow_text_iff {text : List Char} (hzone : zone.IsSeasonal)
    (h : test.Bounds zone window)
    (hshown : ∀ day ∈ test.days, zone.Shows (day * secondsPerDay))
    (htext : window.text zone = .ok text) :
    VirtualTag.readWindow zone text = .ok window ↔ test.IsWhole zone := by
  have hmidnight {e : Date} {start : Instant} (he : zone.Starts e start)
      (hday : e.dayNumber ∈ test.days) : start.IsMidnight zone :=
    he.isMidnight hzone.isSteady (hshown _ hday)
  cases h with
  | since hfirst =>
    refine iff_of_true (VirtualTag.readWindow_of_rereads ?_ htext) (by simp [IsWhole])
    exact hmidnight hfirst (by simp [days])
  | «until» hnext =>
    refine iff_of_true (VirtualTag.readWindow_of_rereads ?_ htext) (by simp [IsWhole])
    exact hmidnight hnext (by simp [days])
  | between hfirst hnext =>
    refine iff_of_true (VirtualTag.readWindow_of_rereads ?_ htext) (by simp [IsWhole])
    exact ⟨hmidnight hfirst (by simp [days]), hmidnight hnext (by simp [days])⟩
  | @on date start stop hdate hstop =>
    -- here the window does not end at a midnight that was read
    obtain ⟨s, hs, htext⟩ := bind_eq_ok_iff.1 htext
    obtain ⟨t, ht, htext⟩ := bind_eq_ok_iff.1 htext
    cases htext
    rw [List.append_assoc, VirtualTag.readWindow_between_iff hs ht,
      and_iff_right (hmidnight hdate (by simp [days])),
      Zone.isMidnight_nextDay_iff hzone hdate hstop (hshown _ (by simp [days]))
        (hshown _ (by simp [days]))]
    simp [IsWhole]

end DayTest

namespace VirtualTag

variable {zone : Zone} {value t : List Char} {test : DayTest} {kind : Kind} {tag : VirtualTag}

/-! ### Tags -/

/-- The kinds of tags whose values are windows of time. -/
def Kind.IsTime (kind : Kind) : Prop := kind = .modified ∨ kind = .created ∨ kind = .accessed

/-- A tag of such a kind is a window. -/
theorem exists_window_of_readValue (hkind : kind.IsTime) (h : readValue zone value kind = .ok tag) :
    ∃ window, readWindow zone value = .ok window ∧ tag.kind = kind ∧
      tag.valueText zone = window.text zone ∧
      ∀ t, readValue zone t kind = .ok tag ↔ readWindow zone t = .ok window := by
  rcases hkind with rfl | rfl | rfl
  all_goals
    obtain ⟨window, hwindow, rfl⟩ := map_eq_ok_iff.1 h
    refine ⟨window, hwindow, rfl, rfl, fun t => map_eq_ok_iff.trans ?_⟩
    constructor
    · rintro ⟨other, hother, heq⟩
      cases heq
      exact hother
    · exact fun hread => ⟨window, hread, rfl⟩

/-- **Which tags of dates are read again from their texts in a zone with summer time.** A tag has a
text, where the clock shows the midnights that it names, as that of the northern zone always does.
It is read again from that, unless it is the tag of a single date on which the clock is put forward
or back: its window ends after 24 hours, and that is no midnight, by the date of which it could be
told. -/
theorem read_text_iff_dayLength (hzone : zone.IsSeasonal) (hkind : kind.IsTime)
    (htells : test.Tells value) (hread : read zone (kind.word.toList ++ ':' :: value) = .ok tag)
    (hshown : Zone.ofText? Zone.southernText = some zone →
      ∀ day ∈ test.days, zone.Shows (day * secondsPerDay)) :
    ∃ text, tag.text zone = .ok text ∧ (read zone text = .ok tag ↔ test.IsWhole zone) := by
  have hshows : ∀ day ∈ test.days, zone.Shows (day * secondsPerDay) := by
    rcases hzone with hnorthern | hsouthern
    · have hmidnights := Zone.showsMidnights_of_northern hnorthern
      exact fun day _ => ⟨_, Zone.wallAt_secondAt_midnight hmidnights⟩
    · exact hshown hsouthern
  rw [read_word] at hread
  obtain ⟨window, hwindow, hword, hvalue, hagain⟩ := exists_window_of_readValue hkind hread
  have hbounds := bounds_of_readWindow htells hwindow
  obtain ⟨text, htext⟩ := DayTest.exists_text_of_shown hzone hbounds hshows
  refine ⟨_, text_eq (hvalue.trans htext), ?_⟩
  rw [hword, read_word, hagain]
  exact DayTest.readWindow_text_iff hzone hbounds hshows htext

/-- A day of 24 hours in the summer of the northern zone. -/
theorem read_text_of_summer_day :
    let zone : Zone := ⟨-18000, some ⟨-14400, ⟨3, 2, 0, 7200⟩, ⟨11, 1, 0, 7200⟩⟩⟩
    let tag := VirtualTag.created (.between (.ofSecond 1717214400) (.ofSecond 1717300800))
    read zone "created:2024-6-1".toList = .ok tag ∧
      zone.dayLength (Date.mk 2024 6 1).dayNumber = secondsPerDay ∧
        tag.text zone = .ok "created:between-2024-06-01-2024-06-02".toList ∧
          read zone "created:between-2024-06-01-2024-06-02".toList = .ok tag := by
  intro zone tag
  have hread : read zone "created:2024-6-1".toList = .ok tag := by decide +kernel
  have hlength : zone.dayLength (Date.mk 2024 6 1).dayNumber = secondsPerDay := by decide +kernel
  have htext : tag.text zone = .ok "created:between-2024-06-01-2024-06-02".toList := by
    decide +kernel
  have htells : DayTest.Tells "2024-6-1".toList (.on ⟨2024, 6, 1⟩) := .on (by decide)
  have hother : Zone.ofText? Zone.southernText ≠ some zone := by
    rw [Zone.ofText?_southernText]
    decide
  have hkind : Kind.IsTime .created := .inr (.inl rfl)
  obtain ⟨text, htext', hiff⟩ := read_text_iff_dayLength (.inl Zone.ofText?_northernText) hkind
    htells hread fun h => absurd h hother
  cases htext.symm.trans htext'
  refine ⟨hread, hlength, htext, hiff.2 fun date hdate => ?_⟩
  cases hdate
  exact hlength

/-- **Some tags of dates are not read again from their texts**: that of a day of 23 hours, that of a
day of 25 hours, and one that names a midnight which the clock skips. -/
theorem not_read_text_of_date :
    let northern : Zone := ⟨-18000, some ⟨-14400, ⟨3, 2, 0, 7200⟩, ⟨11, 1, 0, 7200⟩⟩⟩
    let southern : Zone := ⟨-10800, some ⟨-7200, ⟨10, 3, 0, 0⟩, ⟨2, 3, 0, 0⟩⟩⟩
    let short := VirtualTag.modified (.between (.ofSecond 1710046800) (.ofSecond 1710133200))
    let long := VirtualTag.modified (.between (.ofSecond 1730606400) (.ofSecond 1730692800))
    let skipped := VirtualTag.modified (.after (.ofSecond 1729389600))
    (read northern "modified:2024-03-10".toList = .ok short ∧
      short.text northern = .ok "modified:between-2024-03-10-2024-03-11".toList ∧
      read northern "modified:between-2024-03-10-2024-03-11".toList ≠ .ok short) ∧
    (read northern "modified:2024-11-03".toList = .ok long ∧
      long.text northern = .ok "modified:between-2024-11-03-2024-11-03".toList ∧
      read northern "modified:between-2024-11-03-2024-11-03".toList ≠ .ok long) ∧
    (read southern "modified:after-2024-10-20".toList = .ok skipped ∧
      skipped.text southern = .ok "modified:after-2024-10-19".toList ∧
      read southern "modified:after-2024-10-19".toList ≠ .ok skipped) := by
  refine ⟨⟨?_, ?_, ?_⟩, ⟨?_, ?_, ?_⟩, ⟨?_, ?_, ?_⟩⟩ <;> decide +kernel

end VirtualTag

end FileSieve
