import FileSieve.Proofs.Calendar.Clock
import FileSieve.Proofs.Number.Overflow
import FileSieve.Proofs.VirtualTag.CalendarWindow
import FileSieve.Proofs.VirtualTag.RoundTrip
import FileSieve.Proofs.VirtualTag.Validation
import FileSieve.VirtualTag.Evaluation

/-!
# Tags that are answered

A tag that was read is answered for every file, if only by why the system refuses to tell about it,
but for three kinds of tags: a number of days or hours back that is no floating point number of
seconds, a size with too many digits to be noted, and a date on its own that ends after the last
local date. And a system is not asked for a path with a NUL in it.

* `TimeWindow.Keyword.exists_covers`: away from the ends of the calendar, the window of a keyword
  is worked out.
* `exists_covers_iff`, `exists_windowText_iff`: the windows that are worked out, and those that have
  a text.
* `exists_text_iff`: the tags that have a text.
* `evaluate_answers_iff`: the tags that are answered.
-/

namespace FileSieve

open Text Calendar

/-! ### Windows of keywords -/

namespace Calendar.Date

/-- The first day of a month is not after its other days, and not long before them. -/
theorem firstOfMonth_bounds (n : Int) :
    n - 30 ≤ (Date.mk (ofDayNumber n).year (ofDayNumber n).month 1).dayNumber ∧
      (Date.mk (ofDayNumber n).year (ofDayNumber n).month 1).dayNumber ≤ n := by
  have hn := dayNumber_ofDayNumber n
  have hlast := day_le (ofDayNumber_exists n)
  obtain ⟨-, -, hday, -⟩ := exists_iff.1 (ofDayNumber_exists n)
  simp only [dayNumber] at *
  omega

theorem firstOfYear_le (n : Int) : (Date.mk (ofDayNumber n).year 1 1).dayNumber ≤ n :=
  (firstOfYear_le_iff le_rfl).2 rfl

theorem firstOfYear_mono {year next : Int} (h : year ≤ next) :
    (Date.mk year 1 1).dayNumber ≤ (Date.mk next 1 1).dayNumber := by
  rw [dayNumber_firstOfYear, dayNumber_firstOfYear]
  exact Int.add_le_add_left (daysBeforeYear_mono h) firstDay

end Calendar.Date

namespace TimeWindow

variable {zone : Zone} {now : Reading} {t : Binary64}

/-- **Away from the ends of the calendar, the window of a keyword is worked out.** -/
theorem Keyword.exists_covers (hzone : zone.IsNarrow) (hnow : now.IsModern) (keyword : Keyword) :
    ∃ b, keyword.covers zone now t = .ok b := by
  have hday := hnow.day_bounds.1
  have hdayStart (day : Int) (hlow : -31 ≤ day) (hhigh : day ≤ now.day) :
      ∃ x, now.dayStart zone day = .ok x := hnow.exists_dayStart hzone hlow hhigh
  obtain ⟨today, htoday⟩ := hdayStart now.day (by omega) le_rfl
  cases keyword with
  | today =>
    obtain ⟨present, hpresent⟩ := hnow.exists_timestamp hzone
    simp only [covers, htoday, hpresent, bind, Except.bind]
    split <;> exact ⟨_, rfl⟩
  | yesterday =>
    obtain ⟨yesterday, hyesterday⟩ := hnow.exists_dayBefore
    have hbefore := Reading.dayBefore_eq_ok hyesterday
    obtain ⟨start, hstart⟩ := hdayStart yesterday (by omega) (by omega)
    simp only [covers, htoday, hyesterday, hstart, bind, Except.bind]
    split <;> exact ⟨_, rfl⟩
  | thisWeek =>
    obtain ⟨start, hstart⟩ := hdayStart (now.day - weekday now.day)
      (by simp only [weekday]; omega) (by simp only [weekday]; omega)
    exact ⟨_, bind_eq_ok_iff.2 ⟨start, hstart, rfl⟩⟩
  | thisMonth =>
    obtain ⟨hlow, hhigh⟩ := Date.firstOfMonth_bounds now.day
    obtain ⟨start, hstart⟩ := hdayStart _ (by omega) hhigh
    exact ⟨_, bind_eq_ok_iff.2 ⟨start, hstart, rfl⟩⟩
  | thisYear =>
    have hepoch : (Date.mk 1970 1 1).dayNumber = 0 := by decide
    have hlow := Date.firstOfYear_mono hnow.1
    rw [hepoch] at hlow
    obtain ⟨start, hstart⟩ := hdayStart _ ((by decide : (-31 : Int) ≤ 0).trans hlow)
      (Date.firstOfYear_le now.day)
    exact ⟨_, bind_eq_ok_iff.2 ⟨start, hstart, rfl⟩⟩

/-! ### Windows that were read -/

/-- The number of days or hours back is a floating point number of seconds. -/
def IsCountable : TimeWindow → Prop
  | .lastDays amount => amount * 86400 < Binary64.overflowBound
  | .lastHours amount => amount * 3600 < Binary64.overflowBound
  | _ => True

/-- The window does not end after the last local date. -/
def IsDated (zone : Zone) : TimeWindow → Prop
  | .between _ stop => ∃ d, stop.localDate? zone = some d
  | _ => True

theorem exists_isWithin_iff (hzone : zone.IsNarrow) (hnow : now.IsModern) {n : Nat} :
    (∃ b, isWithin zone now t n = .ok b) ↔ (n : Int) < Binary64.overflowBound := by
  obtain ⟨present, hpresent⟩ := hnow.exists_timestamp hzone
  rw [Nat.cast_lt, ← Nat.not_le, ← Binary64.ofInt?_eq_none_iff]
  unfold isWithin
  rw [hpresent]
  cases hseconds : Binary64.ofInt? n with
  | none => simp [bind, Except.bind]
  | some seconds => simp [bind, Except.bind, pure, Except.pure]

theorem exists_dateText_iff {i : Instant} :
    (∃ s, dateText zone i = .ok s) ↔ ∃ d, i.localDate? zone = some d := by
  unfold dateText
  cases i.localDate? zone <;> simp

/-- A window between two instants has a text when both of them have local dates. -/
theorem exists_text_between_iff {start stop : Instant} {d : Date}
    (hstart : start.localDate? zone = some d) :
    (∃ s, text zone (.between start stop) = .ok s) ↔ IsDated zone (.between start stop) := by
  obtain ⟨s, hs⟩ := exists_dateText_iff.2 ⟨d, hstart⟩
  rw [IsDated, ← exists_dateText_iff, text, exists_bind_eq_ok_iff]
  constructor
  · rintro ⟨_, -, htext⟩
    exact exists_bind_pure_iff.1 htext
  · intro hstop
    exact ⟨s, hs, exists_bind_pure_iff.2 hstop⟩

end TimeWindow

namespace VirtualTag

variable {zone : Zone} {now : Reading} {u : Binary64} {s value : List Char} {window : TimeWindow}
  {tag : VirtualTag}

/-- **Windows that were read are worked out, but for too many days or hours.** -/
theorem exists_covers_iff (hzone : zone.IsNarrow) (hnow : now.IsModern) (h : IsRead zone window) :
    (∃ b, window.covers zone now u = .ok b) ↔ window.IsCountable := by
  cases h with
  | keyword keyword => exact iff_of_true (keyword.exists_covers hzone hnow) trivial
  | @lastDays digits n hn => exact TimeWindow.exists_isWithin_iff (n := n * 86400) hzone hnow
  | @lastHours digits n hn => exact TimeWindow.exists_isWithin_iff (n := n * 3600) hzone hnow
  | after hdate | before hdate => exact iff_of_true ⟨_, rfl⟩ trivial
  | between hstart hstop | day hstart hnext => exact iff_of_true ⟨_, rfl⟩ trivial

/-- The midnight of a date has a local date. -/
theorem exists_localDate?_of_readDate {i : Instant} (h : readDate zone s = .ok i) :
    ∃ d, i.localDate? zone = some d := by
  obtain ⟨d, -, hmidnight⟩ := readDate_eq_ok h
  obtain ⟨near, -, hstart⟩ := Option.bind_eq_some_iff.1 hmidnight
  simp only at hstart
  split at hstart
  · rename_i hrange
    cases hstart
    unfold Instant.localDate?
    rw [Instant.second_ofSecond,
      Zone.wallAt?_of_inRange (Bool.and_eq_true_iff.1 hrange).2]
    exact ⟨_, rfl⟩
  · cases hstart

/-- **Windows that were read have a text, but for the last day.** -/
theorem exists_windowText_iff (h : IsRead zone window) :
    (∃ s, window.text zone = .ok s) ↔ window.IsDated zone := by
  cases h with
  | keyword keyword => exact iff_of_true ⟨_, rfl⟩ trivial
  | lastDays hn | lastHours hn =>
    exact iff_of_true
      (exists_bind_pure_iff.2 (exists_numeralText_iff.2 (lt_of_readNumeral hn))) trivial
  | after hdate | before hdate =>
    exact iff_of_true (exists_bind_pure_iff.2
      (TimeWindow.exists_dateText_iff.2 (exists_localDate?_of_readDate hdate))) trivial
  | between hstart hstop | day hstart hnext =>
    obtain ⟨d, hd⟩ := exists_localDate?_of_readDate hstart
    exact TimeWindow.exists_text_between_iff hd

/-! ### Tags that have a text -/

/-- The tag can be written: its numbers of bytes have numerals, and its window does not end after
the last local date. -/
def CanBeWritten (zone : Zone) : VirtualTag → Prop
  | .modified window | .created window | .accessed window => window.IsDated zone
  | .size (.bytes test) => OfNumbers (· < Nat.pow 10 maxNumeralLength) test
  | _ => True

theorem ofNumber_natCast_iff {p : Nat → Prop} {n : Nat} :
    (∃ m : Nat, (n : Int) = m ∧ p m) ↔ p n := by
  constructor
  · rintro ⟨m, hm, h⟩
    rwa [Int.ofNat.inj hm]
  · exact fun h => ⟨n, rfl, h⟩

theorem exists_countText_iff {p : Nat → Prop} {test : CountTest} (h : OfNumbers p test) :
    (∃ s, test.text = .ok s) ↔ OfNumbers (· < Nat.pow 10 maxNumeralLength) test := by
  cases test with
  | equals count =>
    obtain ⟨n, rfl, -⟩ := h
    rw [OfNumbers, ofNumber_natCast_iff, ← exists_numeralText_iff]
    exact Iff.rfl
  | above count | below count =>
    obtain ⟨n, rfl, -⟩ := h
    rw [OfNumbers, ofNumber_natCast_iff, ← exists_numeralText_iff]
    exact exists_bind_pure_iff
  | range least most =>
    obtain ⟨⟨n, rfl, -⟩, m, rfl, -⟩ := h
    simp only [OfNumbers, ofNumber_natCast_iff, ← exists_numeralText_iff]
    rw [← exists_and_right]
    exact exists_bind_eq_ok_iff.trans
      (exists_congr fun _ => and_congr_right fun _ => exists_bind_pure_iff)

theorem exists_sizeText_iff {p : Nat → Prop} {test : CountTest} (h : OfNumbers p test) :
    (∃ s, (SizeTest.bytes test).text = .ok s) ↔
      OfNumbers (· < Nat.pow 10 maxNumeralLength) test := by
  rw [← exists_countText_iff h]
  cases test with
  | equals count => exact exists_bind_pure_iff
  | above count | below count | range least most => exact Iff.rfl

theorem exists_valueText_iff (h : readValue zone value tag.kind = .ok tag) :
    (∃ s, tag.valueText zone = .ok s) ↔ tag.CanBeWritten zone := by
  cases tag with
  | modified window | created window | accessed window =>
    obtain ⟨_, hwindow, heq⟩ := map_eq_ok_iff.1 h
    cases heq
    exact exists_windowText_iff (isRead_of_readWindow hwindow)
  | size test =>
    obtain ⟨_, htest, heq⟩ := map_eq_ok_iff.1 h
    cases heq
    cases test with
    | empty | category c => exact iff_of_true ⟨_, rfl⟩ trivial
    | bytes test => exact exists_sizeText_iff (isExactTest_of_readSize htest)
  | depth test | lines test =>
    obtain ⟨_, htest, heq⟩ := map_eq_ok_iff.1 h
    cases heq
    have hnumbers := ofNumbers_of_readCountTest htest
    exact iff_of_true ((exists_countText_iff hnumbers).2 hnumbers) trivial
  | extension ext | extensionFamily family | directory path | path glob | permission test
  | git state =>
    exact iff_of_true ⟨_, rfl⟩ trivial

/-- **The tags that have a text.** -/
theorem exists_text_iff (h : read zone s = .ok tag) :
    (∃ t, tag.text zone = .ok t) ↔ tag.CanBeWritten zone := by
  obtain ⟨value, hvalue⟩ := readValue_of_read h
  rw [← exists_valueText_iff hvalue]
  exact exists_bind_pure_iff

/-- The last date on its own, fourteen hours east: it ends at an instant without a local date. -/
example :
    (read ⟨50400, none⟩ "modified:9999-12-31".toList).map (VirtualTag.text ⟨50400, none⟩) =
      .ok (.error .dateOutOfRange) := by
  decide +kernel

/-! ### Thresholds -/

/-- The settings have no threshold that is too large to be worked out. -/
def Measures (settings : TagSettings) : Prop :=
  ∀ category, ¬ ByteSize.IsTooLarge (settings.sizes.literal category)

/-- **No threshold of settings that were read is too large.** -/
theorem measures_of_ofValue {settings : TagSettings} {v : Value}
    (h : TagSettings.ofValue v = .ok settings) : Measures settings := by
  obtain ⟨table, h⟩ : ∃ table, TagSettings.ofTable table = .ok settings := by
    unfold TagSettings.ofValue at h
    split at h
    · exact ⟨_, h⟩
    · exact ⟨_, h⟩
    · cases h
  intro category
  obtain ⟨bytes, hbytes⟩ := (TagSettings.isSound_of_ofTable h).sizes category
  exact ByteSize.exists_bytes?_iff.1 ⟨_, hbytes⟩

theorem exists_threshold {settings : TagSettings} {category : SizeCategory}
    (h : Measures settings) (hlast : category ≠ .huge) :
    ∃ bytes, threshold settings category = .ok bytes := by
  obtain ⟨bytes?, hbytes⟩ := ByteSize.exists_bytes?_iff.2 (h category)
  unfold threshold SizeThresholds.bytes?
  rw [hbytes]
  cases bytes? with
  | some bytes => exact ⟨bytes, rfl⟩
  | none =>
    cases category with
    | huge => exact absurd rfl hlast
    | tiny | small | medium | large => exact ⟨_, rfl⟩

theorem ne_huge_of_below? {category below : SizeCategory} (h : category.below? = some below) :
    below ≠ .huge := by
  cases category <;> cases h <;> decide

/-- The threshold of the last category is never asked for. -/
theorem exists_isInCategory {settings : TagSettings} {size : Int} {category : SizeCategory}
    (h : Measures settings) : ∃ b, isInCategory settings size category = .ok b := by
  have hupper (least : Nat) : ∃ b : Bool, (do
      if size < least then return false
      else if category = .huge then return true
      else return size < (← threshold settings category)) = Except.ok (ε := EvalError) b := by
    split_ifs with hsmall hlast
    · exact ⟨_, rfl⟩
    · exact ⟨_, rfl⟩
    · exact exists_bind_pure_iff.2 (exists_threshold h hlast)
  unfold isInCategory
  cases hbelow : category.below? with
  | none => exact hupper 0
  | some below =>
    obtain ⟨least, hleast⟩ := exists_threshold h (ne_huge_of_below? hbelow)
    exact exists_bind_eq_ok_iff.2 ⟨least, hleast, hupper least⟩

theorem exists_checkSize {settings : TagSettings} {size : Int} {test : SizeTest}
    (h : Measures settings) : ∃ b, checkSize settings size test = .ok b := by
  cases test with
  | empty | bytes test => exact ⟨_, rfl⟩
  | category category => exact exists_isInCategory h

/-! ### Tags that are answered -/

/-- The outcome is an answer, if only why the system refuses to tell about the file. -/
def Answers (x : Except EvalError Bool) : Prop :=
  (∃ b, x = .ok b) ∨ ∃ failure, x = .error (.file failure)

/-- The window of the tag is none of too many days or hours. -/
def CanBeCounted : VirtualTag → Prop
  | .modified window | .created window | .accessed window => window.IsCountable
  | _ => True

/-- **A tag has a verdict when it has an answer and a text.** -/
theorem answers_verdict_iff {path : List Char} {found : Except EvalError Bool} :
    Answers (tag.verdict zone path found).1 ↔
      (∃ text, tag.text zone = .ok text) ∧ Answers found := by
  unfold verdict Answers
  cases tag.text zone with
  | ok text =>
    cases found with
    | ok b => simp
    | error e => cases e <;> simp
  | error fault =>
    cases found with
    | ok b => simp
    | error e => cases e <;> simp

variable {τ : Type} {env : Surroundings τ} {path : List Char} {m : Metadata}

theorem answers_ok (b : Bool) : Answers (.ok b) := .inl ⟨b, rfl⟩

/-- A time is compared with a window that was read, unless that is one of too many days or
hours. -/
theorem exists_checkTime_iff (hzone : env.zone.IsNarrow) (hnow : env.now.IsModern)
    (h : readWindow env.zone value = .ok window) :
    (∃ b, checkTime env u window = .ok b) ↔ window.IsCountable := by
  rw [← exists_covers_iff hzone hnow (isRead_of_readWindow h)]
  exact exists_congr fun _ => mapError_eq_ok_iff

/-- A time that is not recorded is an answer as well. -/
theorem answers_recorded_iff {recorded : Option Binary64} {missing : FileFailure}
    (hzone : env.zone.IsNarrow) (hnow : env.now.IsModern)
    (h : readWindow env.zone value = .ok window) :
    let found := match recorded with
      | some u => checkTime env u window
      | none => .error (.file missing)
    Answers found ↔ window.IsCountable ∨ ∃ failure, found = .error (.file failure) := by
  cases recorded with
  | none => exact iff_of_true (.inr ⟨missing, rfl⟩) (.inr ⟨missing, rfl⟩)
  | some u => exact or_congr_left (exists_checkTime_iff hzone hnow h)

/-- The lines of the file are counted for the tag. -/
def CountsLines (tag : VirtualTag) (m : Metadata) : Prop :=
  (∃ test, tag = .lines test) ∧ m.isFile = true

/-- An error about a file is an answer, unless the system was not asked. -/
theorem answers_ofFile_iff {e : FileError} :
    Answers (.error (.ofFile e)) ↔ e ≠ .nulInPath := by
  cases e <;> simp [Answers, EvalError.ofFile]

/-- The metadata of a file answers a tag that was read, unless that has a window of too many days
or hours, or lines are to be counted where the system is not asked. -/
theorem answers_holdsByMetadata_iff (hzone : env.zone.IsNarrow) (hnow : env.now.IsModern)
    (hsettings : Measures env.settings) (h : readValue env.zone value tag.kind = .ok tag) :
    Answers (tag.holdsByMetadata env path m) ↔
      ¬ (env.files.endsEarly path = true ∧ tag.CountsLines m) ∧ (tag.CanBeCounted ∨
        ∃ failure, tag.holdsByMetadata env path m = .error (.file failure)) := by
  by_cases hlines : tag.CountsLines m
  · obtain ⟨⟨test, rfl⟩, hfile⟩ := hlines
    have hcounts : CountsLines (.lines test) m := ⟨⟨test, rfl⟩, hfile⟩
    rw [and_iff_left hcounts, ← FileTable.read_eq_nulInPath_iff,
      and_iff_left (.inl trivial : CanBeCounted (.lines test) ∨ _)]
    simp only [holdsByMetadata, hfile, if_true]
    cases env.files.read path with
    | ok contents => exact iff_of_true (answers_ok _) nofun
    | error e => exact answers_ofFile_iff.trans (by simp)
  rw [and_iff_right fun htrouble => hlines htrouble.2]
  cases tag with
  | modified window =>
    obtain ⟨_, hwindow, heq⟩ := map_eq_ok_iff.1 h
    cases heq
    exact or_congr_left (exists_checkTime_iff hzone hnow hwindow)
  | created window | accessed window =>
    obtain ⟨_, hwindow, heq⟩ := map_eq_ok_iff.1 h
    cases heq
    exact answers_recorded_iff hzone hnow hwindow
  | size test => exact iff_of_true (.inl (exists_checkSize hsettings)) (.inl trivial)
  | lines test =>
    have hnot : m.isFile = false := Bool.eq_false_iff.2 fun hfile => hlines ⟨⟨test, rfl⟩, hfile⟩
    refine iff_of_true ?_ (.inl trivial)
    simp only [holdsByMetadata, hnot, Bool.false_eq_true, if_false]
    exact answers_ok _
  | permission test | extension ext | extensionFamily family | directory wanted | path glob
  | depth test | git state =>
    exact iff_of_true (answers_ok _) (.inl trivial)

theorem canBeCounted_of_named {file : FileRef} {b : Bool}
    (h : tag.holdsByName? env.settings file = some b) : tag.CanBeCounted := by
  cases tag <;> trivial

variable [Clock τ] {cache : MetadataCache τ} {file : FileRef}

/-- The disk is asked for the file: no metadata of it is kept, or its lines are counted. -/
def AsksDisk (env : Surroundings τ) (cache : MetadataCache τ) (file : FileRef)
    (tag : VirtualTag) : Prop :=
  tag.holdsByName? env.settings file = none ∧
    ∀ m, cache.lookup file.text env.tick = .fresh m → tag.CountsLines m

theorem answers_holds_iff (hzone : env.zone.IsNarrow) (hnow : env.now.IsModern)
    (hsettings : Measures env.settings) (h : read env.zone s = .ok tag) :
    Answers (tag.holds env cache file).2 ↔
      ¬ (env.files.endsEarly file.text = true ∧ tag.AsksDisk env cache file) ∧
        (tag.CanBeCounted ∨
          ∃ failure, (tag.holds env cache file).2 = .error (.file failure)) := by
  obtain ⟨value, hvalue⟩ := readValue_of_read h
  cases hname : tag.holdsByName? env.settings file with
  | some b =>
    rw [holds_of_named hname]
    refine iff_of_true (answers_ok b) ⟨fun htrouble => ?_, .inl (canBeCounted_of_named hname)⟩
    cases hname.symm.trans htrouble.2.1
  | none =>
    have hmetadata (m : Metadata) : Answers (tag.holdsByMetadata env file.text m) ↔ _ :=
      answers_holdsByMetadata_iff hzone hnow hsettings hvalue
    rw [holds_of_unnamed hname, AsksDisk, and_iff_right hname]
    cases hlookup : cache.lookup file.text env.tick with
    | fresh m =>
      rw [MetadataCache.get_of_fresh hlookup]
      simpa using hmetadata m
    | expired | absent =>
      -- the disk is asked, so it matters whether the system is
      simp only [MetadataCache.get, hlookup, reduceCtorEq, false_implies, implies_true, and_true,
        ← FileTable.metadata_eq_nulInPath_iff]
      cases hdisk : env.files.metadata file.text with
      | error e =>
        refine answers_ofFile_iff.trans ?_
        cases e <;> simp [EvalError.ofFile]
      | ok m =>
        have hasked : ¬ env.files.endsEarly file.text = true := by
          simp [← FileTable.metadata_eq_nulInPath_iff, hdisk]
        simpa [hasked] using hmetadata m

/-- **The tags that are answered**: in every supported zone and at every time of the years 1970 to
9000, a tag that was read is answered when it can be written, when the system is not to be asked for
a path with a NUL in it, and when it is not one of too many days or hours, unless the system refuses
to tell about the file. -/
theorem evaluate_answers_iff (hzone : env.zone.IsSupported)
    (hoffset : |env.zone.standard| < secondsPerDay) (hnow : env.now.IsModern)
    (hsettings : Measures env.settings) (h : read env.zone s = .ok tag) :
    Answers (tag.evaluate env cache file).2 ↔ tag.CanBeWritten env.zone ∧
      ¬ (env.files.endsEarly file.text = true ∧ tag.AsksDisk env cache file) ∧
      (tag.CanBeCounted ∨ ∃ failure, (tag.holds env cache file).2 = .error (.file failure)) := by
  rw [← answers_holds_iff (hzone.isNarrow hoffset) hnow hsettings h, ← exists_text_iff h]
  exact answers_verdict_iff

/-- A week back from a day of June 2024, fourteen hours east. -/
theorem evaluate_answers_last_week :
    let node : FileNode :=
      ⟨.file, 0o644, 5, .ofRat (1718200000 : Int), none, none, [], none, none⟩
    let env : Surroundings Binary64 :=
      ⟨⟨50400, none⟩, .default, ⟨[("a".toList, node)], false⟩, ⟨1718202600000000, none, false⟩,
        .finite 1000⟩
    let cache : MetadataCache Binary64 := .empty (.whole 300) true
    read env.zone "modified:last-7-days".toList = .ok (.modified (.lastDays 7)) ∧
      Answers ((VirtualTag.modified (.lastDays 7)).evaluate env cache (.spelled "a".toList)).2 := by
  intro node env cache
  have hread : read env.zone "modified:last-7-days".toList = .ok (.modified (.lastDays 7)) := by
    decide +kernel
  have hnow : env.now.IsModern := ⟨by decide +kernel, by decide +kernel⟩
  have hseconds : (7 * 86400 : Int) < Binary64.overflowBound := by decide +kernel
  exact ⟨hread, (evaluate_answers_iff (.inl rfl) (by decide) hnow
    (measures_of_ofValue TagSettings.ofValue_null) hread).2
      ⟨trivial, fun htrouble => absurd htrouble.1 (by decide), .inl hseconds⟩⟩

/-- From 10 to the power of 310 days back on: the seconds are no floating point number. -/
theorem not_answers_many_days :
    ¬ ∀ (env : Surroundings Binary64) (cache : MetadataCache Binary64) (file : FileRef)
      (s : List Char) (tag : VirtualTag), env.zone.IsSupported →
        |env.zone.standard| < secondsPerDay → env.now.IsModern → Measures env.settings →
          read env.zone s = .ok tag → Answers (tag.evaluate env cache file).2 := by
  intro hall
  let node : FileNode := ⟨.file, 0o644, 5, .ofRat (1718200000 : Int), none, none, [], none, none⟩
  let env : Surroundings Binary64 :=
    ⟨⟨0, none⟩, .default, ⟨[("a".toList, node)], false⟩, ⟨1718202600000000, none, false⟩,
      .finite 1000⟩
  let cache : MetadataCache Binary64 := .empty (.whole 300) true
  let s := "modified:last-1".toList ++ List.replicate 310 '0' ++ "-days".toList
  let tag := VirtualTag.modified (.lastDays (10 ^ 310))
  have hread : read env.zone s = .ok tag := by decide +kernel
  have hevaluate : (tag.evaluate env cache (.spelled "a".toList)).2 =
      .error (.time .tooManySeconds) := by
    decide +kernel
  have hnow : env.now.IsModern := ⟨by decide +kernel, by decide +kernel⟩
  have hanswers := hall env cache (.spelled "a".toList) s tag (.inl rfl) (by decide) hnow
    (measures_of_ofValue TagSettings.ofValue_null) hread
  rw [hevaluate] at hanswers
  rcases hanswers with ⟨b, h⟩ | ⟨failure, h⟩
  · cases h
  · cases h

end VirtualTag

end FileSieve
