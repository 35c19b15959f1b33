import FileSieve.VirtualTag.Evaluation
import FileSieve.Proofs.Calendar.Midnight
import FileSieve.Proofs.VirtualTag.CalendarWindow
import FileSieve.Proofs.VirtualTag.RoundTrip

/-!
# Windows of dates

A tag that names dates holds of the files whose time has a local date on the right side of them. The
dates are read from the text and turned into the instants of midnights, with which the times of the
files are compared; where no midnight is skipped, nothing is lost on the way.

* `midnight_le_eq`, `lt_midnight_eq`: a time is compared with a midnight as its date with the date.
* `bounds_of_readWindow`: a window that is read from dates is bounded by their midnights.
* `covers_of_bounds`: a window between midnights holds the days of its test.
* `holds_of_tells`: a tag of dates holds of the files whose local date passes its test.
-/

namespace FileSieve

open Text Calendar

/-! ### Times and midnights -/

namespace Calendar

/-- A valid date starts at an instant. -/
structure Zone.Starts (zone : Zone) (e : Date) (start : Instant) : Prop where
  valid : e.isValid = true
  midnight : zone.midnight? e = some start

variable {zone : Zone} {d e : Date} {start stop : Instant} {t s : Int}

theorem Zone.Starts.exists (h : zone.Starts e start) : e.exists? = true :=
  Date.exists_of_isValid h.valid

theorem Instant.timestamp_ofSecond (h : |s| < Binary64.wholeBound) :
    (Instant.ofSecond s).timestamp = .finite s := by
  have hquotient : mkRat (s * Instant.perSecond) Instant.perSecond.toNat = (s : Rat) := by
    rw [Rat.mkRat_eq_div]
    simp [Instant.perSecond]
  unfold Instant.timestamp Instant.ofSecond
  rw [hquotient, Binary64.ofRat_intCast h]

/-- The seconds of an instant within the years that dates may have are kept. -/
theorem Instant.timestamp_of_inRange (h : Zone.inRange s = true) :
    (Instant.ofSecond s).timestamp = .finite s := by
  rw [Zone.inRange_iff] at h
  refine timestamp_ofSecond (abs_lt.2 ?_)
  simp only [Binary64.wholeBound]
  omega

/-- The local date of a second is a date of the calendar. -/
theorem exists_of_localDate? (hd : (Instant.ofSecond t).localDate? zone = some d) :
    d.exists? = true := by
  rw [(Zone.localDate?_eq_some hd).1]
  exact Date.ofDayNumber_exists _

/-- A time and a midnight are whole seconds, and they are in order as their dates are. -/
theorem exists_midnight (hzone : zone.ShowsMidnights) (hstart : zone.Starts e start)
    (hd : (Instant.ofSecond t).localDate? zone = some d) :
    ∃ s : Int, start.timestamp = .finite s ∧ Binary64.ofRat t = .finite t ∧ (s ≤ t ↔ e ≤ d) := by
  obtain ⟨s, hs, rfl, -⟩ := Zone.exists_secondOf?_of_midnight? hzone hstart.midnight
  obtain ⟨hbound, hoffset⟩ := Zone.secondOf?_bounds hzone.steady hs
  obtain ⟨ht, hdate⟩ := Reading.ofRat_of_localDate? (hoffset t) hd
  refine ⟨s, Instant.timestamp_ofSecond ?_, ht, ?_⟩
  · simp only [Binary64.wholeBound]
    omega
  · rw [(Zone.secondOf?_eq_some hs).1, Zone.secondAt_midnight_le_iff hzone.steady,
      Date.le_iff_dayNumber_le hstart.exists (exists_of_localDate? hd), hdate,
      Date.dayNumber_ofDayNumber]

/-- **A time is not before a midnight when its date is not before the date.** -/
theorem midnight_le_eq (hzone : zone.ShowsMidnights) (hstart : zone.Starts e start)
    (hd : (Instant.ofSecond t).localDate? zone = some d) :
    start.timestamp.le (.ofRat t) = decide (e ≤ d) := by
  obtain ⟨s, hs, ht, hiff⟩ := exists_midnight hzone hstart hd
  rw [hs, ht, Binary64.le_finite, decide_eq_decide, Int.cast_le, hiff]

/-- **A time is before a midnight when its date is before the date.** -/
theorem lt_midnight_eq (hzone : zone.ShowsMidnights) (hstart : zone.Starts e start)
    (hd : (Instant.ofSecond t).localDate? zone = some d) :
    (Binary64.ofRat t).lt start.timestamp = decide (d < e) := by
  obtain ⟨s, hs, ht, hiff⟩ := exists_midnight hzone hstart hd
  rw [hs, ht, Binary64.lt_finite, decide_eq_decide, Int.cast_lt, ← Int.not_le, hiff, Date.le_iff,
    not_not]

/-- A day after a second there is an instant, up to the end of the last year. -/
theorem nextDay?_ofSecond_iff : (Instant.ofSecond s).nextDay? = some stop ↔
    stop = .ofSecond (s + secondsPerDay) ∧ Zone.inRange (s + secondsPerDay) = true := by
  have hmicros : (⟨(Instant.ofSecond s).micros + secondsPerDay * Instant.perSecond⟩ : Instant) =
      .ofSecond (s + secondsPerDay) := by
    rw [Instant.ofSecond, Instant.ofSecond, Int.add_mul]
  unfold Instant.nextDay?
  simp only [hmicros, Instant.inRange, Instant.second_ofSecond]
  split
  · rename_i hrange
    rw [Option.some.injEq, eq_comm, and_iff_left hrange]
  · rename_i hrange
    exact iff_of_false (by simp) fun h => hrange h.2

/-- **At a fixed offset, the 24 hours from a midnight on are those of its date.** -/
theorem nextDay_eq (hfixed : zone.summer = none) (hstart : zone.Starts e start)
    (hnext : start.nextDay? = some stop) (hd : (Instant.ofSecond t).localDate? zone = some d) :
    (start.timestamp.le (.ofRat t) && (Binary64.ofRat t).lt stop.timestamp) = decide (d = e) := by
  have hzone := Zone.showsMidnights_of_fixed hfixed
  have hle := midnight_le_eq hzone hstart hd
  obtain ⟨s, hs, rfl, hshown, -⟩ := Zone.exists_secondOf?_of_midnight? hzone hstart.midnight
  obtain ⟨rfl, hrange⟩ := nextDay?_ofSecond_iff.1 hnext
  obtain ⟨ht, hdate⟩ :=
    Reading.ofRat_of_localDate? ((Zone.secondOf?_bounds hzone.steady hs).2 t) hd
  have hstop := Instant.timestamp_of_inRange hrange
  -- the clock shows a midnight again after 24 hours
  have hbefore : t < s + secondsPerDay ↔ d.dayNumber ≤ e.dayNumber := by
    obtain ⟨standard, summer⟩ := zone
    cases hfixed
    rw [hdate, Date.dayNumber_ofDayNumber, Zone.dayAt]
    rw [Zone.wallAt_fixed] at hshown ⊢
    simp only [secondsPerDay] at *
    omega
  have hexists := exists_of_localDate? hd
  rw [hle, hstop, ht, Binary64.lt_finite, ← Bool.decide_and, decide_eq_decide, Int.cast_lt, hbefore,
    Date.le_iff_dayNumber_le hstart.exists hexists, Date.eq_iff_dayNumber_eq hexists hstart.exists]
  omega

/-- The text of a midnight is that of its date. -/
theorem dateText_of_starts (hzone : zone.ShowsMidnights) (hstart : zone.Starts e start) :
    TimeWindow.dateText zone start = .ok e.text := by
  obtain ⟨s, -, rfl, hshown, hrange⟩ :=
    Zone.exists_secondOf?_of_midnight? hzone hstart.midnight
  unfold TimeWindow.dateText
  rw [Zone.localDate?_of_wallAt hstart.exists hshown hrange]

/-- At a fixed offset, the instant 24 hours after a midnight has a date, unless that would come
after the last one. -/
theorem exists_dateText_of_nextDay? (hfixed : zone.summer = none) (hstart : zone.Starts e start)
    (hnext : start.nextDay? = some stop) (hlast : e ≠ .last) :
    ∃ text, TimeWindow.dateText zone stop = .ok text := by
  obtain ⟨s, -, rfl, hshown, -⟩ :=
    Zone.exists_secondOf?_of_midnight? (Zone.showsMidnights_of_fixed hfixed) hstart.midnight
  obtain ⟨rfl, -⟩ := nextDay?_ofSecond_iff.1 hnext
  have hnumber := Date.dayNumber_ofDayNumber (e.dayNumber + 1)
  have htomorrow : zone.wallAt (s + secondsPerDay) =
      (Date.ofDayNumber (e.dayNumber + 1)).dayNumber * secondsPerDay := by
    obtain ⟨standard, summer⟩ := zone
    cases hfixed
    rw [hnumber, Int.add_mul, ← hshown, Zone.wallAt_fixed, Zone.wallAt_fixed]
    omega
  have hrange := Date.inRange_tomorrow hstart.valid hlast
  rw [← hnumber] at hrange
  refine ⟨(Date.ofDayNumber (e.dayNumber + 1)).text, ?_⟩
  unfold TimeWindow.dateText
  rw [Zone.localDate?_of_wallAt (Date.ofDayNumber_exists _) htomorrow hrange]

end Calendar

/-! ### Tests of days -/

/-- What a window of dates asks of a day. -/
inductive DayTest where
  /-- It is a date or a later one. -/
  | since (first : Date)
  /-- It is before a date. -/
  | until (next : Date)
  /-- It is a date or a later one, and before another. -/
  | between (first next : Date)
  /-- It is a date itself. -/
  | on (date : Date)

namespace DayTest

/-- Does a day pass the test? -/
def holds (d : Date) : DayTest → Bool
  | .since first => first ≤ d
  | .until next => d < next
  | .between first next => first ≤ d ∧ d < next
  | .on date => d = date

/-- The values that tell a test, with any texts of its dates. -/
inductive Tells : List Char → DayTest → Prop
  | since {s : List Char} {first : Date} : Date.ofText? s = some first →
      Tells ("after-".toList ++ s) (.since first)
  | until {s : List Char} {next : Date} : Date.ofText? s = some next →
      Tells ("before-".toList ++ s) (.until next)
  | between {s t : List Char} {first next : Date} : Date.ofText? s = some first →
      Date.ofText? t = some next →
      Tells ("between-".toList ++ (s ++ '-' :: t)) (.between first next)
  | on {s : List Char} {date : Date} : Date.ofText? s = some date → Tells s (.on date)

/-- The window of a test is bounded by the midnights of its dates; that of a single date ends after
24 hours. -/
inductive Bounds (zone : Zone) : DayTest → TimeWindow → Prop
  | since {first : Date} {start : Instant} : zone.Starts first start →
      Bounds zone (.since first) (.after start)
  | until {next : Date} {stop : Instant} : zone.Starts next stop →
      Bounds zone (.until next) (.before stop)
  | between {first next : Date} {start stop : Instant} : zone.Starts first start →
      zone.Starts next stop → Bounds zone (.between first next) (.between start stop)
  | on {date : Date} {start stop : Instant} : zone.Starts date start →
      start.nextDay? = some stop → Bounds zone (.on date) (.between start stop)

/-- The zone is one in which the test means days: no midnight is skipped, and for a single date all
days have 24 hours. -/
structure FitsZone (zone : Zone) (test : DayTest) : Prop where
  midnights : zone.ShowsMidnights
  days : ∀ date, test = .on date → zone.summer = none

variable {zone : Zone} {test : DayTest} {window : TimeWindow} {now : Reading} {d : Date} {u : Int}

/-- **A window between midnights holds the days of its test.** -/
theorem covers_of_bounds (hfits : test.FitsZone zone) (h : test.Bounds zone window)
    (hd : (Instant.ofSecond u).localDate? zone = some d) :
    window.covers zone now (.ofRat u) = .ok (test.holds d) := by
  have hzone := hfits.midnights
  cases h with
  | since hfirst =>
    rw [TimeWindow.covers_after, midnight_le_eq hzone hfirst hd]
    rfl
  | «until» hnext =>
    rw [TimeWindow.covers_before, lt_midnight_eq hzone hnext hd]
    rfl
  | between hfirst hnext =>
    rw [TimeWindow.covers_between, midnight_le_eq hzone hfirst hd, lt_midnight_eq hzone hnext hd,
      ← Bool.decide_and]
    rfl
  | on hdate hstop =>
    rw [TimeWindow.covers_between, nextDay_eq (hfits.days _ rfl) hdate hstop hd]
    rfl

/-- **A window between midnights has a text**, but for that of the last date: the day after it has
no date. -/
theorem exists_text_of_bounds (hfits : test.FitsZone zone) (h : test.Bounds zone window)
    (hlast : test ≠ .on .last) : ∃ text, window.text zone = .ok text := by
  have htext {e : Date} {start : Instant} (he : zone.Starts e start) :
      TimeWindow.dateText zone start = .ok e.text := dateText_of_starts hfits.midnights he
  cases h with
  | since hfirst =>
    simp only [TimeWindow.text, htext hfirst]
    exact ⟨_, rfl⟩
  | «until» hnext =>
    simp only [TimeWindow.text, htext hnext]
    exact ⟨_, rfl⟩
  | between hfirst hnext =>
    simp only [TimeWindow.text, htext hfirst, htext hnext]
    exact ⟨_, rfl⟩
  | on hdate hstop =>
    obtain ⟨text, hstop⟩ := exists_dateText_of_nextDay? (hfits.days _ rfl) hdate hstop
      (fun heq => hlast (heq ▸ rfl))
    simp only [TimeWindow.text, htext hdate, hstop]
    exact ⟨_, rfl⟩

end DayTest

namespace VirtualTag

variable {zone : Zone} {s value : List Char} {c : Char} {d e : Date} {start : Instant}
  {t : Int} {test : DayTest} {window : TimeWindow}

/-! ### Reading -/

theorem starts_of_readDate (he : Date.ofText? s = some e) (h : readDate zone s = .ok start) :
    zone.Starts e start := by
  unfold readDate at h
  rw [he, Option.bind_some] at h
  split at h
  · rename_i hstart
    cases h
    exact ⟨Date.isValid_of_ofText? he, hstart⟩
  · cases h

theorem hasThreeParts_of_ofText? (h : Date.ofText? s = some d) : HasThreeParts s := by
  obtain ⟨c, year, month, day, rfl, -, hyear, hmonth, hday⟩ := exists_parts_of_ofText? h
  refine ⟨c :: year, month, day, ?_, hyear, hmonth, hday⟩
  simp only [joinWith, List.append_assoc, List.cons_append, List.nil_append]

/-- A value that begins with a digit is a date on its own. -/
theorem readWindow_of_digit (h : isDigit c = true) :
    readWindow zone (c :: s) = readBareDate zone (c :: s) := by
  have hne {p : Char} (hp : isDigit p = false) : p ≠ c := by
    rintro rfl
    rw [h] at hp
    cases hp
  have hdrop {p : Char} {word : List Char} (hp : isDigit p = false) :
      dropStart? (p :: word) (c :: s) = none := if_neg (hne hp)
  unfold readWindow
  rw [keyword_eq_none (hne (by decide)).symm (hne (by decide)).symm,
    show dropStart? "last-".toList (c :: s) = none from hdrop (by decide),
    show dropStart? "after-".toList (c :: s) = none from hdrop (by decide),
    show dropStart? "before-".toList (c :: s) = none from hdrop (by decide),
    show dropStart? "between-".toList (c :: s) = none from hdrop (by decide)]
  rfl

/-- **A window that is read from dates is bounded by their midnights.** -/
theorem bounds_of_readWindow (htells : test.Tells value) (h : readWindow zone value = .ok window) :
    test.Bounds zone window := by
  cases htells with
  | since hfirst =>
    rw [readWindow_after] at h
    obtain ⟨start, hstart, rfl⟩ := map_eq_ok_iff.1 h
    exact .since (starts_of_readDate hfirst hstart)
  | «until» hnext =>
    rw [readWindow_before] at h
    obtain ⟨stop, hstop, rfl⟩ := map_eq_ok_iff.1 h
    exact .until (starts_of_readDate hnext hstop)
  | between hfirst hnext =>
    rw [readWindow_between, readBetween_threeParts (hasThreeParts_of_ofText? hfirst)
      (hasThreeParts_of_ofText? hnext)] at h
    obtain ⟨start, hstart, h⟩ := bind_eq_ok_iff.1 h
    obtain ⟨stop, hstop, h⟩ := bind_eq_ok_iff.1 h
    cases h
    exact .between (starts_of_readDate hfirst hstart) (starts_of_readDate hnext hstop)
  | on hdate =>
    -- no keyword and no other form begins with a digit
    obtain ⟨c, year, month, day, rfl, hc, -⟩ := exists_parts_of_ofText? hdate
    rw [List.cons_append, readWindow_of_digit hc] at h
    obtain ⟨start, hstart, h⟩ := bind_eq_ok_iff.1 h
    split at h
    · rename_i stop hstop
      cases h
      exact .on (starts_of_readDate hdate hstart) hstop
    · cases h

/-! ### Tags -/

variable {τ : Type} [Clock τ] {env : Surroundings τ} {cache : MetadataCache τ} {file : FileRef}
  {m : Metadata} {tag : VirtualTag}

/-- **A tag of dates holds of the files whose local date passes its test**: at every fixed offset,
and in a zone with summer time as long as the tag does not name a single date. The verdict is the
same, but for the last date on its own, the tag of which cannot be written. -/
theorem holds_of_tells (hzone : env.zone.summer = none ∨
      Zone.ofText? Zone.northernText = some env.zone ∧ ∀ date, test ≠ .on date)
    (htells : test.Tells value) (hread : read env.zone ("modified:".toList ++ value) = .ok tag)
    (hm : (cache.get env.files file.text env.tick).2 = .ok m) (ht : m.modified = .ofRat t)
    (hd : (Instant.ofSecond t).localDate? env.zone = some d) :
    (tag.holds env cache file).2 = .ok (test.holds d) ∧
      (test ≠ .on .last → (tag.evaluate env cache file).2 = .ok (test.holds d)) := by
  have hfits : test.FitsZone env.zone := by
    rcases hzone with hfixed | ⟨hnorthern, hother⟩
    · exact ⟨Zone.showsMidnights_of_fixed hfixed, fun _ _ => hfixed⟩
    · exact ⟨Zone.showsMidnights_of_northern hnorthern,
        fun date htest => absurd htest (hother date)⟩
  have hvalue : readValue env.zone value .modified = .ok tag :=
    (read_word .modified).symm.trans hread
  obtain ⟨window, hwindow, rfl⟩ := map_eq_ok_iff.1 hvalue
  have hbounds := bounds_of_readWindow htells hwindow
  have hholds : ((VirtualTag.modified window).holds env cache file).2 = .ok (test.holds d) := by
    rw [holds_of_unnamed rfl, hm]
    change (window.covers env.zone env.now m.modified).mapError EvalError.time = _
    rw [ht, DayTest.covers_of_bounds hfits hbounds hd]
    rfl
  refine ⟨hholds, fun hlast => ?_⟩
  obtain ⟨text, htext⟩ := DayTest.exists_text_of_bounds hfits hbounds hlast
  simp only [evaluate, hholds]
  exact verdict_of_ok (text_eq htext)

/-- The last second of a day of 23 hours: its date is in a window of that day. -/
theorem holds_of_short_day :
    let zone : Zone := ⟨-18000, some ⟨-14400, ⟨3, 2, 0, 7200⟩, ⟨11, 1, 0, 7200⟩⟩⟩
    let node : FileNode :=
      ⟨.file, 0o644, 5, .ofRat (1710129599 : Int), none, none, [], none, none⟩
    let env : Surroundings Binary64 :=
      ⟨zone, .default, ⟨[("a".toList, node)], false⟩, ⟨1718202600000000, none, false⟩, .finite 1000⟩
    let cache : MetadataCache Binary64 := .empty (.whole 300) true
    let tag := VirtualTag.modified (.between (.ofSecond 1710046800) (.ofSecond 1710129600))
    read zone "modified:between-2024-3-10-2024-03-11".toList = .ok tag ∧
      (Instant.ofSecond 1710129599).localDate? zone = some ⟨2024, 3, 10⟩ ∧
        (tag.holds env cache (.spelled "a".toList)).2 = .ok true ∧
          (tag.evaluate env cache (.spelled "a".toList)).2 = .ok true := by
  intro zone node env cache tag
  have hread : read zone "modified:between-2024-3-10-2024-03-11".toList = .ok tag := by
    decide +kernel
  have hd : (Instant.ofSecond 1710129599).localDate? zone = some ⟨2024, 3, 10⟩ := by
    decide +kernel
  let test : DayTest := .between ⟨2024, 3, 10⟩ ⟨2024, 3, 11⟩
  have htells : test.Tells "between-2024-3-10-2024-03-11".toList :=
    .between (s := "2024-3-10".toList) (t := "2024-03-11".toList) (by decide) (by decide)
  have hm : (cache.get env.files "a".toList env.tick).2 = .ok (node.metadata false) := by
    decide +kernel
  have ht : (node.metadata false).modified = .ofRat (1710129599 : Int) := by
    simp only [FileNode.metadata, node]
  have hholds : (tag.holds env cache (.spelled "a".toList)).2 = .ok (test.holds ⟨2024, 3, 10⟩) ∧
      (test ≠ .on .last →
        (tag.evaluate env cache (.spelled "a".toList)).2 = .ok (test.holds ⟨2024, 3, 10⟩)) :=
    holds_of_tells (.inr ⟨Zone.ofText?_northernText, by simp⟩) htells hread hm ht hd
  exact ⟨hread, hd, hholds.1, hholds.2 (by simp [test])⟩

end VirtualTag

end FileSieve
