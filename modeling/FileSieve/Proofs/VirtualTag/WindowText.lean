import FileSieve.Proofs.Calendar.DateText
import FileSieve.Proofs.Outcome
import FileSieve.VirtualTag.Reader

/-!
# Time windows as they are written

A window is told by words, numbers and local dates. Where the midnights of a zone are found again
by their dates, a window that was read is read again from its text.

* `Zone.tellsDays_of_fixed`: at a fixed offset, midnights are found again by their dates.
* `isRead_of_readWindow`: what a window that was read is made of.
* `rereads_of_isRead`: its parts can be read again.
* `readWindow_text`: a window that was read is read again from its text.
-/

namespace FileSieve

open Text Calendar

/-! ### Instants told by their dates -/

/-- The instant is the midnight of its local date. -/
def Calendar.Instant.IsMidnight (zone : Zone) (i : Instant) : Prop :=
  ∀ d, i.localDate? zone = some d → d.isValid = true ∧ zone.midnight? d = some i

/-- The midnights of the zone, and the instants a day after one, are midnights of their dates. -/
structure Calendar.Zone.TellsDays (zone : Zone) : Prop where
  midnight : ∀ {d : Date} {start : Instant}, d.isValid = true → zone.midnight? d = some start →
    start.IsMidnight zone
  nextDay : ∀ {d : Date} {start stop : Instant}, zone.midnight? d = some start →
    start.nextDay? = some stop → stop.IsMidnight zone

/-- **At a fixed offset, midnights are found again by their dates.** -/
theorem Calendar.Zone.tellsDays_of_fixed {zone : Zone} (hfixed : zone.summer = none)
    (hoffset : zone.standard < secondsPerDay) : zone.TellsDays := by
  obtain ⟨standard, summer⟩ := zone
  cases hfixed
  exact ⟨fun hd h _ he => midnight?_localDate? hd h he,
    fun h hnext _ he => midnight?_nextDay? hoffset h hnext he⟩

theorem Calendar.Date.isValid_of_ofText? {s : List Char} {d : Date} (h : Date.ofText? s = some d) :
    d.isValid = true := by
  unfold Date.ofText? at h
  simp only at h
  split at h
  · obtain ⟨rest, -, h⟩ := Option.bind_eq_some_iff.1 h
    obtain ⟨⟨month, rest⟩, -, h⟩ := Option.bind_eq_some_iff.1 h
    obtain ⟨dayText, -, h⟩ := Option.bind_eq_some_iff.1 h
    obtain ⟨day, -, h⟩ := Option.bind_eq_some_iff.1 h
    simp only at h
    split at h
    · rename_i hvalid
      cases h
      exact hvalid
    · cases h
  · cases h

namespace VirtualTag

variable {zone : Zone} {s t : List Char} {i : Instant} {w : TimeWindow}

theorem readDate_eq_ok (h : readDate zone s = .ok i) :
    ∃ d : Date, d.isValid = true ∧ zone.midnight? d = some i := by
  unfold readDate at h
  split at h
  · rename_i start hstart
    cases h
    obtain ⟨d, hd, hmidnight⟩ := Option.bind_eq_some_iff.1 hstart
    exact ⟨d, Date.isValid_of_ofText? hd, hmidnight⟩
  · cases h

theorem dateText_eq_ok (h : TimeWindow.dateText zone i = .ok s) :
    ∃ d, i.localDate? zone = some d ∧ s = d.text := by
  unfold TimeWindow.dateText at h
  split at h
  · rename_i d hd
    cases h
    exact ⟨d, hd, rfl⟩
  · cases h

theorem readDate_dateText (hi : i.IsMidnight zone) (h : TimeWindow.dateText zone i = .ok s) :
    readDate zone s = .ok i := by
  obtain ⟨d, hd, rfl⟩ := dateText_eq_ok h
  obtain ⟨hvalid, hmidnight⟩ := hi d hd
  unfold readDate
  rw [Date.ofText?_text hvalid, Option.bind_some, hmidnight]

/-- The text has three parts between dashes. -/
def HasThreeParts (s : List Char) : Prop :=
  ∃ a b c, s = joinWith ['-'] [a, b, c] ∧ '-' ∉ a ∧ '-' ∉ b ∧ '-' ∉ c

theorem hasThreeParts_of_dateText (h : TimeWindow.dateText zone i = .ok s) : HasThreeParts s := by
  obtain ⟨d, -, rfl⟩ := dateText_eq_ok h
  refine ⟨padded 4 d.year.toNat, padded 2 d.month, padded 2 d.day.toNat, ?_,
    (isNumeral_padded ..).not_mem rfl, (isNumeral_padded ..).not_mem rfl,
    (isNumeral_padded ..).not_mem rfl⟩
  simp only [Date.text, joinWith, List.append_assoc, List.cons_append, List.nil_append]

/-! ### Windows that were read -/

/-- The window was read, from parts that were read. -/
inductive IsRead (zone : Zone) : TimeWindow → Prop
  /-- A word. -/
  | keyword (keyword : TimeWindow.Keyword) : IsRead zone (.keyword keyword)
  /-- A number of days. -/
  | lastDays {digits : List Char} {n : Nat} (h : readNumeral digits = .ok n) :
      IsRead zone (.lastDays n)
  /-- A number of hours. -/
  | lastHours {digits : List Char} {n : Nat} (h : readNumeral digits = .ok n) :
      IsRead zone (.lastHours n)
  /-- A date from which on the window lasts. -/
  | after {s : List Char} {start : Instant} (h : readDate zone s = .ok start) :
      IsRead zone (.after start)
  /-- A date up to which it lasts. -/
  | before {s : List Char} {stop : Instant} (h : readDate zone s = .ok stop) :
      IsRead zone (.before stop)
  /-- Two dates. -/
  | between {s t : List Char} {start stop : Instant} (hstart : readDate zone s = .ok start)
      (hstop : readDate zone t = .ok stop) : IsRead zone (.between start stop)
  /-- A date on its own. -/
  | day {s : List Char} {start stop : Instant} (hstart : readDate zone s = .ok start)
      (hnext : start.nextDay? = some stop) : IsRead zone (.between start stop)

theorem isRead_of_readLast (h : readLast s = .ok w) : IsRead zone w := by
  unfold readLast at h
  simp only at h
  split at h
  · cases h
  · split at h
    · obtain ⟨n, hn, h⟩ := bind_eq_ok_iff.1 h
      cases h
      exact .lastDays hn
    · split at h
      · obtain ⟨n, hn, h⟩ := bind_eq_ok_iff.1 h
        cases h
        exact .lastHours hn
      · cases h

theorem isRead_of_readBetween (h : readBetween zone s t = .ok w) : IsRead zone w := by
  unfold readBetween at h
  split at h
  · obtain ⟨start, hstart, h⟩ := bind_eq_ok_iff.1 h
    obtain ⟨stop, hstop, h⟩ := bind_eq_ok_iff.1 h
    cases h
    exact .between hstart hstop
  · cases h

theorem isRead_of_readBareDate (h : readBareDate zone s = .ok w) : IsRead zone w := by
  obtain ⟨start, hstart, h⟩ := bind_eq_ok_iff.1 h
  split at h
  · rename_i stop hnext
    cases h
    exact .day hstart hnext
  · cases h

theorem isRead_of_readWindow (h : readWindow zone s = .ok w) : IsRead zone w := by
  unfold readWindow at h
  split at h
  · cases h
    exact .keyword _
  · split at h
    · exact isRead_of_readLast h
    · split at h
      · obtain ⟨start, hstart, rfl⟩ := map_eq_ok_iff.1 h
        exact .after hstart
      · obtain ⟨stop, hstop, rfl⟩ := map_eq_ok_iff.1 h
        exact .before hstop
      · exact isRead_of_readBetween h
      · exact isRead_of_readBareDate h

/-! ### Windows that are read again -/

/-- The parts of the window can be read again: its number is not negative, and its instants are
the midnights of their dates. -/
def Rereads (zone : Zone) : TimeWindow → Prop
  | .keyword _ => True
  | .lastDays amount | .lastHours amount => 0 ≤ amount
  | .after start => start.IsMidnight zone
  | .before stop => stop.IsMidnight zone
  | .between start stop => start.IsMidnight zone ∧ stop.IsMidnight zone

theorem isMidnight_of_readDate (hzone : zone.TellsDays) (h : readDate zone s = .ok i) :
    i.IsMidnight zone := by
  obtain ⟨d, hd, hmidnight⟩ := readDate_eq_ok h
  exact hzone.midnight hd hmidnight

/-- The parts of a window that was read can be read again. -/
theorem rereads_of_isRead (hzone : zone.TellsDays) (h : IsRead zone w) : Rereads zone w := by
  cases h with
  | keyword keyword => trivial
  | lastDays hn | lastHours hn => exact Int.natCast_nonneg _
  | after hdate | before hdate => exact isMidnight_of_readDate hzone hdate
  | between hstart hstop =>
    exact ⟨isMidnight_of_readDate hzone hstart, isMidnight_of_readDate hzone hstop⟩
  | day hstart hnext =>
    -- the window ends a day after its start, which is where a zone might lose a midnight
    obtain ⟨d, hd, hmidnight⟩ := readDate_eq_ok hstart
    exact ⟨hzone.midnight hd hmidnight, hzone.nextDay hmidnight hnext⟩

/-! ### Reading the text of a window -/

/-- The words of windows begin with two letters only. -/
theorem keyword_eq_none {c : Char} {rest : List Char} (ht : c ≠ 't') (hy : c ≠ 'y') :
    TimeWindow.Keyword.ofWord? (c :: rest) = none := by
  refine List.find?_eq_none.2 fun keyword _ hword => ?_
  have hhead := congrArg List.head? (of_decide_eq_true hword)
  cases keyword
  case yesterday => exact hy (Option.some.inj hhead).symm
  all_goals exact ht (Option.some.inj hhead).symm

theorem readWindow_last {digits unit : List Char}
    (hunit : unit = "-days".toList ∨ unit = "-hours".toList) :
    readWindow zone ("last-".toList ++ digits ++ unit) =
      readLast ("last-".toList ++ digits ++ unit) := by
  -- one of the two endings is there
  have hends : (endsWith "-days".toList ("last-".toList ++ digits ++ unit) ||
      endsWith "-hours".toList ("last-".toList ++ digits ++ unit)) = true := by
    rw [Bool.or_eq_true]
    rcases hunit with rfl | rfl
    · exact .inl (List.isSuffixOf_iff_suffix.2 (List.suffix_append ..))
    · exact .inr (List.isSuffixOf_iff_suffix.2 (List.suffix_append ..))
  unfold readWindow
  rw [hends, List.append_assoc, dropStart?_append,
    show TimeWindow.Keyword.ofWord? ("last-".toList ++ (digits ++ unit)) = none from
      keyword_eq_none (by decide) (by decide)]
  rfl

theorem readLast_eq {digits unit : List Char} (h : IsNumeral digits)
    (hunit : unit.head? = some '-') :
    readLast ("last-".toList ++ digits ++ unit) =
      if unit = "-days".toList then return .lastDays (← readNumeral digits)
      else if unit = "-hours".toList then return .lastHours (← readNumeral digits)
      else reject .value ("last-".toList ++ digits ++ unit) := by
  obtain ⟨rest, rfl⟩ : ∃ rest, unit = '-' :: rest := by
    cases unit with
    | nil => cases hunit
    | cons c rest => cases hunit; exact ⟨rest, rfl⟩
  have hdrop : ("last-".toList ++ digits ++ '-' :: rest).drop "last-".length =
      digits ++ '-' :: rest := rfl
  have htake : (digits ++ '-' :: rest).takeWhile Char.isDigit = digits := by
    rw [List.takeWhile_append_of_pos h.2]
    exact List.append_nil digits
  have hrest : (digits ++ '-' :: rest).dropWhile Char.isDigit = '-' :: rest :=
    List.dropWhile_append_of_pos h.2
  have hsome : digits.isEmpty = false := List.isEmpty_eq_false_iff.2 h.1
  unfold readLast
  simp only [hdrop, htake, hrest, hsome, Bool.false_eq_true, if_false]

theorem readNumeral_of_numeral? {n : Nat} (h : numeral? n = some s) : readNumeral s = .ok n := by
  unfold readNumeral
  rw [readDigits?_of_numeral? h]

theorem readWindow_after : readWindow zone ("after-".toList ++ s) = .after <$> readDate zone s := by
  unfold readWindow
  rw [show TimeWindow.Keyword.ofWord? ("after-".toList ++ s) = none from
    keyword_eq_none (by decide) (by decide), dropStart?_append]
  rfl

theorem readWindow_before :
    readWindow zone ("before-".toList ++ s) = .before <$> readDate zone s := by
  unfold readWindow
  rw [show TimeWindow.Keyword.ofWord? ("before-".toList ++ s) = none from
    keyword_eq_none (by decide) (by decide), dropStart?_append]
  rfl

theorem readWindow_between :
    readWindow zone ("between-".toList ++ s) = readBetween zone ("between-".toList ++ s) s := by
  unfold readWindow
  rw [show TimeWindow.Keyword.ofWord? ("between-".toList ++ s) = none from
    keyword_eq_none (by decide) (by decide), dropStart?_append]
  rfl

/-- Two texts of three parts with a dash between them are six parts. -/
theorem splitAtEach_threeParts (hs : HasThreeParts s) (ht : HasThreeParts t) :
    ∃ a b c d e f, splitAtEach '-' (s ++ '-' :: t) = [a, b, c, d, e, f] ∧
      joinWith ['-'] [a, b, c] = s ∧ joinWith ['-'] [d, e, f] = t := by
  obtain ⟨a, b, c, rfl, ha, hb, hc⟩ := hs
  obtain ⟨d, e, f, rfl, hd, he, hf⟩ := ht
  refine ⟨a, b, c, d, e, f, ?_, rfl, rfl⟩
  simp only [joinWith, List.append_assoc, List.cons_append, List.nil_append,
    splitAtEach_append_cons, ha, hb, hc, hd, he, splitAtEach_of_not_mem, hf, not_false_eq_true]

theorem readBetween_threeParts {value : List Char} (hs : HasThreeParts s) (ht : HasThreeParts t) :
    readBetween zone value (s ++ '-' :: t) =
      (do return .between (← readDate zone s) (← readDate zone t)) := by
  obtain ⟨a, b, c, d, e, f, hsplit, rfl, rfl⟩ := splitAtEach_threeParts hs ht
  unfold readBetween
  rw [hsplit]

theorem readBetween_dates {start stop : Instant} {value : List Char}
    (hstart : start.IsMidnight zone) (hstop : stop.IsMidnight zone)
    (hs : TimeWindow.dateText zone start = .ok s) (ht : TimeWindow.dateText zone stop = .ok t) :
    readBetween zone value (s ++ '-' :: t) = .ok (.between start stop) := by
  rw [readBetween_threeParts (hasThreeParts_of_dateText hs) (hasThreeParts_of_dateText ht),
    readDate_dateText hstart hs, readDate_dateText hstop ht]
  rfl

/-- A window whose parts can be read again is read from its text. -/
theorem readWindow_of_rereads (hw : Rereads zone w) (h : w.text zone = .ok t) :
    readWindow zone t = .ok w := by
  cases w with
  | keyword k =>
    cases h
    unfold readWindow
    rw [TimeWindow.Keyword.ofWord?_word]
  | lastDays amount | lastHours amount =>
    obtain ⟨n, rfl⟩ := Int.eq_ofNat_of_zero_le hw
    obtain ⟨digits, hdigits, h⟩ := bind_eq_ok_iff.1 h
    cases h
    have hnumeral := numeralText_natCast hdigits
    rw [readWindow_last (by simp), readLast_eq (isNumeral_of_numeral? hnumeral) rfl,
      readNumeral_of_numeral? hnumeral]
    rfl
  | after start =>
    obtain ⟨s, hs, h⟩ := bind_eq_ok_iff.1 h
    cases h
    rw [readWindow_after, readDate_dateText hw hs]
    rfl
  | before stop =>
    obtain ⟨s, hs, h⟩ := bind_eq_ok_iff.1 h
    cases h
    rw [readWindow_before, readDate_dateText hw hs]
    rfl
  | between start stop =>
    -- both dates hold dashes, and so does what stands between them: six parts in all
    obtain ⟨s, hs, h⟩ := bind_eq_ok_iff.1 h
    obtain ⟨u, hu, h⟩ := bind_eq_ok_iff.1 h
    cases h
    rw [List.append_assoc, readWindow_between]
    exact readBetween_dates hw.1 hw.2 hs hu

/-- **A window that was read is read again from its text.** -/
theorem readWindow_text (hzone : zone.TellsDays) (h : readWindow zone s = .ok w)
    (ht : w.text zone = .ok t) : readWindow zone t = .ok w :=
  readWindow_of_rereads (rereads_of_isRead hzone (isRead_of_readWindow h)) ht

end VirtualTag

end FileSieve
