import FileSieve.Calendar.Instant

/-!
# Clock readings

What a clock shows: a date and a time of day, in the local zone or at an offset of its own.

* `date_ofFields?`: a reading shows the date it was made from.
-/

namespace FileSieve.Calendar

/-- Why a time could not be worked out. -/
inductive TimeFault where
  /-- A clock would leave the years that dates may have. -/
  | clockOutOfRange
  /-- A date would leave the years that dates may have. -/
  | dateOutOfRange
  /-- A number of seconds is too large for a floating point number. -/
  | tooManySeconds
  deriving DecidableEq, Repr

/-- What a clock shows. -/
structure Reading where
  /-- The microseconds from the start of 1970 on that clock. -/
  wall : Int
  /-- The offset of the clock in seconds; the clock shows local time if it is missing. -/
  offset : Option Int
  /-- Does a local clock show the time again, after it was put back? -/
  secondPass : Bool
  deriving DecidableEq, Repr

namespace Reading

/-- The reading with a date and a time of day. -/
def ofFields? (date : Date) (hour minute second micros : Nat) (offset : Option Int)
    (secondPass : Bool := false) : Option Reading :=
  let inDay : Int := (hour * 60 + minute) * 60 + second
  let proper := offset.all fun o => -secondsPerDay < o && o < secondsPerDay
  if date.isValid && hour < 24 && minute < 60 && second < 60 && micros < 1000000 && proper then
    let wall := (date.dayNumber * secondsPerDay + inDay) * Instant.perSecond + micros
    some ⟨wall, offset, secondPass⟩
  else none

/-- The second that is shown. -/
def second (r : Reading) : Int := r.wall / Instant.perSecond

/-- The day number that is shown. -/
def day (r : Reading) : Int := r.second / secondsPerDay

/-- The date that is shown. -/
def date (r : Reading) : Date := .ofDayNumber r.day

/-- The seconds since the epoch at which a local clock shows a second and some microseconds. -/
def localTimestamp (zone : Zone) (wall micros : Int) (secondPass : Bool := false) :
    Except TimeFault Binary64 :=
  match zone.secondOf? wall secondPass with
  | none => .error .clockOutOfRange
  | some t => .ok ((Binary64.ofRat t).add (.ofRat (mkRat micros Instant.perSecond.toNat)))

/-- The seconds since the epoch at which the clock shows what it shows. -/
def timestamp (zone : Zone) (r : Reading) : Except TimeFault Binary64 :=
  match r.offset with
  | none => localTimestamp zone r.second (r.wall % Instant.perSecond) r.secondPass
  | some offset => .ok (Instant.timestamp ⟨r.wall - offset * Instant.perSecond⟩)

/-- The seconds since the epoch at which a day starts on the clock. -/
def dayStart (zone : Zone) (r : Reading) (day : Int) : Except TimeFault Binary64 :=
  match r.offset with
  | none => localTimestamp zone (day * secondsPerDay) 0
  | some offset => .ok (Instant.timestamp (.ofSecond (day * secondsPerDay - offset)))

/-- The day before the one that is shown, if it is within the years that dates may have. -/
def dayBefore (r : Reading) : Except TimeFault Int :=
  if Zone.inRange (r.second - secondsPerDay) then .ok (r.day - 1) else .error .dateOutOfRange

theorem date_ofFields? {d : Date} {hour minute second micros : Nat} {offset : Option Int}
    {secondPass : Bool} {r : Reading}
    (h : ofFields? d hour minute second micros offset secondPass = some r) : r.date = d := by
  simp only [ofFields?] at h
  split at h
  · rename_i hvalid
    simp only [Bool.and_eq_true, decide_eq_true_eq] at hvalid
    obtain ⟨⟨⟨⟨⟨hd, hh⟩, hm⟩, hs⟩, hu⟩, -⟩ := hvalid
    cases h
    have hsecond : Reading.second ⟨(d.dayNumber * secondsPerDay +
        ((hour * 60 + minute) * 60 + second)) * Instant.perSecond + micros, offset, secondPass⟩ =
        d.dayNumber * secondsPerDay + ((hour * 60 + minute) * 60 + second) := by
      simp only [Reading.second, Instant.perSecond]; omega
    have hday : (d.dayNumber * secondsPerDay + ((hour * 60 + minute) * 60 + second)) /
        secondsPerDay = d.dayNumber := by
      simp only [secondsPerDay]; omega
    simp only [date, day, hsecond, hday]
    simp only [Date.isValid, Bool.and_eq_true] at hd
    exact Date.ofDayNumber_dayNumber hd.2
  · cases h

end Reading

end FileSieve.Calendar
