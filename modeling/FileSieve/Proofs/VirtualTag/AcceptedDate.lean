import FileSieve.Proofs.Calendar.DigitDate
import FileSieve.Proofs.VirtualTag.RefusedPart

/-!
# Dates that are accepted

At a fixed offset, a tag with a date of digits is accepted when the date is one of the calendar, is
not the very first one, and starts within the years that dates may have in universal time. A date on
its own has to end within them, too.

* `readDate_eq_ok_iff`: the dates that are read, and the instants they stand for.
* `exists_readBareDate_iff`: the dates that are read on their own.
* `read_date_iff`: the tags that are accepted, and what the others are refused for.
-/

namespace FileSieve

open Text Calendar

namespace Calendar

/-- The second of universal time at which a date starts, at a fixed offset. -/
def Zone.startOf (zone : Zone) (d : Date) : Int := d.dayNumber * secondsPerDay - zone.standard

/-- At a fixed offset, the date starts at an instant that can be told: it is one of the calendar
other than the first one, and in universal time it starts in the years from 1 to 9999. -/
structure Date.IsTold (zone : Zone) (d : Date) : Prop where
  gregorian : d.IsGregorian
  ne_first : d ≠ ⟨1, 1, 1⟩
  year : 1 ≤ Zone.yearOfSecond (zone.startOf d) ∧ Zone.yearOfSecond (zone.startOf d) ≤ 9999

variable {zone : Zone} {d : Date} {start stop : Instant} {s : List Char} {t : Int}

/-- At a fixed offset, the midnights that are found are those of the dates that can be told. -/
theorem midnight?_eq_some_iff_isTold (hfixed : zone.summer = none)
    (hoffset : |zone.standard| < secondsPerDay) (hd : d.isValid = true) :
    zone.midnight? d = some start ↔ d.IsTold zone ∧ start = .ofSecond (zone.startOf d) := by
  obtain ⟨standard, summer⟩ := zone
  cases hfixed
  rw [Zone.midnight?_fixed_iff hoffset hd, Zone.inRange_iff_yearOfSecond]
  constructor
  · rintro ⟨hne, hyear, rfl⟩
    exact ⟨⟨Date.isValid_iff_isGregorian.1 hd, hne, hyear⟩, rfl⟩
  · rintro ⟨htold, rfl⟩
    exact ⟨htold.ne_first, htold.year, rfl⟩

end Calendar

namespace VirtualTag

variable {zone : Zone} {d : Date} {start : Instant} {s value : List Char} {kind : Kind}
  {window : TimeWindow}

/-! ### Dates -/

/-- **The dates of digits that are read**, and the instants they stand for. -/
theorem readDate_eq_ok_iff (hfixed : zone.summer = none)
    (hoffset : |zone.standard| < secondsPerDay) (h : d.IsSpelled s) :
    readDate zone s = .ok start ↔ d.IsTold zone ∧ start = .ofSecond (zone.startOf d) := by
  unfold readDate
  rw [Date.ofText?_of_isSpelled h]
  by_cases hd : d.isValid = true
  · rw [if_pos hd, Option.bind_some, ← midnight?_eq_some_iff_isTold hfixed hoffset hd]
    cases zone.midnight? d with
    | none => simp [reject]
    | some midnight => simp
  · rw [if_neg hd, Option.bind_none]
    refine iff_of_false (by simp [reject]) fun htold => hd ?_
    exact Date.isValid_iff_isGregorian.2 htold.1.gregorian

/-- **The dates of digits that are read on their own.** -/
theorem exists_readBareDate_iff (hfixed : zone.summer = none)
    (hoffset : |zone.standard| < secondsPerDay) (h : d.IsSpelled s) :
    (∃ window, readBareDate zone s = .ok window) ↔
      d.IsTold zone ∧ Zone.inRange (zone.startOf d + secondsPerDay) = true := by
  unfold readBareDate
  simp only [exists_bind_eq_ok_iff, readDate_eq_ok_iff hfixed hoffset h, and_assoc,
    exists_and_left, exists_eq_left]
  refine and_congr_right fun _ => ?_
  cases hnext : (Instant.ofSecond (zone.startOf d)).nextDay? with
  | none =>
    refine iff_of_false (by simp [reject]) fun hrange => ?_
    cases hnext.symm.trans (nextDay?_ofSecond_iff.2 ⟨rfl, hrange⟩)
  | some stop => exact iff_of_true ⟨_, rfl⟩ (nextDay?_ofSecond_iff.1 hnext).2

/-- A date alone is all that reading it may be refused for. -/
theorem eq_rejected_of_readDate {e : ReadError} (h : readDate zone s = .error e) :
    e = .rejected (.of .date s) := by
  unfold readDate at h
  split at h
  · cases h
  · cases h
    rfl

theorem eq_rejected_of_readBareDate {e : ReadError} (h : readBareDate zone s = .error e) :
    e = .rejected (.of .date s) := by
  unfold readBareDate at h
  rcases bind_eq_error_iff.1 h with h | ⟨start, -, h⟩
  · exact eq_rejected_of_readDate h
  · split at h
    · cases h
    · cases h
      rfl

/-- A text of digits is tried as a date on its own. -/
theorem readWindow_of_isSpelled (h : d.IsSpelled s) :
    readWindow zone s = readBareDate zone s := by
  obtain @⟨year, month, day, hyear, -, -⟩ := h
  obtain ⟨c, rest, rfl⟩ := List.exists_cons_of_ne_nil hyear.2.1
  exact readWindow_of_digit (hyear.2.isDigit c List.mem_cons_self)

/-! ### Tags -/

theorem exists_readValue_iff (hkind : kind.IsTime) :
    (∃ tag, readValue zone value kind = .ok tag) ↔
      ∃ window, readWindow zone value = .ok window := by
  rcases hkind with rfl | rfl | rfl
  all_goals
    simp only [readValue, map_eq_ok_iff]
    constructor
    · rintro ⟨_, window, hread, -⟩
      exact ⟨window, hread⟩
    · rintro ⟨window, hread⟩
      exact ⟨_, window, hread, rfl⟩

theorem readValue_eq_error_iff (hkind : kind.IsTime) {e : ReadError} :
    readValue zone value kind = .error e ↔ readWindow zone value = .error e := by
  rcases hkind with rfl | rfl | rfl <;> exact map_eq_error_iff

/-- **The tags with a date of digits that are accepted, and what the others are refused for.** At a
fixed offset of less than a day, a tag of the times after a date is accepted exactly when the date
is one of the calendar other than 0001-01-01 and starts in the years from 1 to 9999 in universal
time; for the tag of the date itself, the 24 hours from then on have to end in them as well. The
others are refused for the date. -/
theorem read_date_iff (hfixed : zone.summer = none) (hoffset : |zone.standard| < secondsPerDay)
    (hkind : kind.IsTime) (h : d.IsSpelled s) :
    let after := read zone (kind.word.toList ++ ':' :: ("after-".toList ++ s))
    let on := read zone (kind.word.toList ++ ':' :: s)
    ((∃ tag, after = .ok tag) ↔ d.IsTold zone) ∧
      ((∃ tag, on = .ok tag) ↔ d.IsTold zone ∧
        Zone.yearOfSecond (zone.startOf d + secondsPerDay) ≤ 9999) ∧
      (∀ e, after = .error e → e = .rejected (.of .date s)) ∧
      ∀ e, on = .error e → e = .rejected (.of .date s) := by
  intro after on
  have hafter : after = readValue zone ("after-".toList ++ s) kind := read_word kind
  have hon : on = readValue zone s kind := read_word kind
  rw [hafter, hon]
  simp only [exists_readValue_iff hkind, readValue_eq_error_iff hkind, readWindow_after,
    readWindow_of_isSpelled h, map_eq_error_iff]
  refine ⟨?_, ?_, fun e => eq_rejected_of_readDate, fun e => eq_rejected_of_readBareDate⟩
  · simp only [map_eq_ok_iff, readDate_eq_ok_iff hfixed hoffset h]
    exact ⟨fun ⟨_, _, hstart, _⟩ => hstart.1, fun htold => ⟨_, _, ⟨htold, rfl⟩, rfl⟩⟩
  · rw [exists_readBareDate_iff hfixed hoffset h, Zone.inRange_iff_yearOfSecond]
    refine and_congr_right fun htold => and_iff_right (htold.year.1.trans ?_)
    exact Zone.yearOfSecond_mono (Int.le_add_of_nonneg_right (by decide))

/-- The last date starts in its own year ten hours to the west, but does not end in it. -/
theorem read_date_iff_of_last :
    let west : Zone := ⟨-36000, none⟩
    let d : Date := ⟨9999, 12, 31⟩
    d.IsSpelled "9999-12-31".toList ∧ |west.standard| < secondsPerDay ∧ d.IsTold west ∧
      (∃ tag, read west "created:after-9999-12-31".toList = .ok tag) ∧
      Zone.yearOfSecond (west.startOf d + secondsPerDay) = 10000 ∧
      read west "created:9999-12-31".toList =
        .error (.rejected (.of .date "9999-12-31".toList)) := by
  intro west d
  have hspelled : d.IsSpelled "9999-12-31".toList :=
    @Date.IsSpelled.digits "9999".toList "12".toList "31".toList (by decide) (by decide) (by decide)
  have hoffset : |west.standard| < secondsPerDay := by decide
  obtain ⟨hafter, hon, -, hrefused⟩ :=
    @read_date_iff west d _ .created rfl hoffset (.inr (.inl rfl)) hspelled
  have htold : d.IsTold west :=
    ⟨Date.isValid_iff_isGregorian.1 (by decide), by decide, by decide +kernel⟩
  have hyear : Zone.yearOfSecond (west.startOf d + secondsPerDay) = 10000 := by decide +kernel
  refine ⟨hspelled, hoffset, htold, hafter.2 htold, hyear, ?_⟩
  cases hread : read west "created:9999-12-31".toList with
  | ok tag =>
    have hlast := (hon.1 ⟨tag, hread⟩).2
    rw [hyear] at hlast
    exact absurd hlast (by decide)
  | error e => rw [hrefused e hread]

end VirtualTag

end FileSieve
