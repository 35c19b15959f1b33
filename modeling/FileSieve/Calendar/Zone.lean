import FileSieve.Calendar.Date
import FileSieve.Text.Numeral
import FileSieve.Text.Split

/-!
# Time zones

A zone has a standard offset and perhaps a summer time that begins and ends by rules which name a
weekday of a month. Times are whole seconds: those of the epoch, or those a wall clock shows.

* `offsetAt_fixed`: without summer time the offset is the same at all times.
* `offsetAt_mem`: the offset is always one of the two offsets of the zone.
* `secondOf?_fixed`: without summer time a wall clock is read by taking the offset away.
-/

namespace FileSieve.Calendar

open Text

/-- The seconds of a day. -/
def secondsPerDay : Int := 86400

/-- A day of every year: the weekday (Sunday is zero) of a week of a month, and the second of
that day; week 5 is the last one. -/
structure YearlyRule where
  month : Nat
  week : Nat
  dayOfWeek : Nat
  second : Int
  deriving DecidableEq, Repr

/-- The day number on which a rule falls. -/
def YearlyRule.dayNumber (rule : YearlyRule) (year : Int) : Int :=
  let first := (Date.mk year rule.month 1).dayNumber
  -- the first such weekday of the month
  let start := first + (rule.dayOfWeek - (weekday first + 1)) % 7
  let next := start + 7 * (rule.week - 1)
  if rule.week = 5 ∧ first + monthLength (isLeap year) rule.month ≤ next then next - 7 else next

/-- A summer time: its offset, and the rules by which it begins and ends. -/
structure SummerTime where
  offset : Int
  starts : YearlyRule
  ends : YearlyRule
  deriving DecidableEq, Repr

/-- A time zone; offsets are in seconds, positive to the east. -/
structure Zone where
  standard : Int
  summer : Option SummerTime
  deriving DecidableEq, Repr

namespace Zone

/-- The zone of universal time. -/
def universal : Zone := ⟨0, none⟩

/-! ### Offsets -/

/-- The year in which a second of the epoch falls. -/
def yearOfSecond (t : Int) : Int :=
  (Date.ofDayNumber (t / secondsPerDay)).year

/-- Is it summer at a second of the epoch? Where summer begins late in the year, it goes on into
the next. -/
def isSummer (standard : Int) (summer : SummerTime) (t : Int) : Bool :=
  let year := yearOfSecond t
  let start := summer.starts.dayNumber year * secondsPerDay + summer.starts.second - standard
  let stop := summer.ends.dayNumber year * secondsPerDay + summer.ends.second - summer.offset
  -- a summer that ends before it starts goes on over the turn of the year
  if stop < start then t < stop || start ≤ t else start ≤ t && t < stop

/-- The offset at a second of the epoch. -/
def offsetAt (zone : Zone) (t : Int) : Int :=
  match zone.summer with
  | none => zone.standard
  | some summer => if isSummer zone.standard summer t then summer.offset else zone.standard

/-- What a wall clock shows at a second of the epoch. -/
def wallAt (zone : Zone) (t : Int) : Int := t + zone.offsetAt t

theorem offsetAt_fixed {standard : Int} (t : Int) : offsetAt ⟨standard, none⟩ t = standard := rfl

theorem offsetAt_mem {zone : Zone} {summer : SummerTime} (h : zone.summer = some summer)
    (t : Int) : zone.offsetAt t = summer.offset ∨ zone.offsetAt t = zone.standard := by
  simp only [offsetAt, h]
  split
  · exact .inl rfl
  · exact .inr rfl

/-! ### Wall clocks -/

/-- The first second of the years that dates may have. -/
def firstSecond : Int := (Date.mk Date.firstYear 1 1).dayNumber * secondsPerDay

/-- The second after the years that dates may have. -/
def endSecond : Int := (Date.mk (Date.lastYear + 1) 1 1).dayNumber * secondsPerDay

/-- Is the second within the years that dates may have? -/
def inRange (t : Int) : Bool := firstSecond ≤ t && t < endSecond

/-- What a wall clock shows, if that is within the years that dates may have. -/
def wallAt? (zone : Zone) (t : Int) : Option Int :=
  let wall := zone.wallAt t
  if inRange wall then some wall else none

/-- The second at which a wall clock shows the given one. Of two such seconds it is the earlier, or
the later one in the second pass; where the clock skips the given one, it is read with the offset
before the gap, or with the one after it in the second pass. Days are looked at on either side, so
nothing is found next to the ends of the years that dates may have. -/
def secondOf? (zone : Zone) (wall : Int) (secondPass : Bool := false) : Option Int := do
  let a := (← zone.wallAt? wall) - wall
  let first := wall - a
  let shown ← zone.wallAt? first
  let aside := if secondPass then first + secondsPerDay else first - secondsPerDay
  let b ← if shown = wall then (· - aside) <$> zone.wallAt? aside else some (shown - first)
  if shown = wall ∧ a = b then return first
  else
    -- the offset a day aside may be that of the other side of a change
    let second := wall - b
    let shownThen ← zone.wallAt? second
    if shownThen = wall then return second
    else if shown = wall then return first
    -- neither of the two shows it: the clock was put forward over it
    else return if secondPass then min first second else max first second

theorem wallAt?_of_inRange {zone : Zone} {t : Int} (h : inRange (zone.wallAt t) = true) :
    zone.wallAt? t = some (zone.wallAt t) := by
  simp [wallAt?, h]

theorem secondOf?_fixed {standard wall : Int}
    (hahead : inRange (wall + standard) = true) (hhere : inRange wall = true)
    (hbefore : inRange (wall - secondsPerDay) = true) :
    secondOf? ⟨standard, none⟩ wall = some (wall - standard) := by
  have h1 : wallAt? ⟨standard, none⟩ wall = some (wall + standard) :=
    wallAt?_of_inRange hahead
  have h2 : wallAt? ⟨standard, none⟩ (wall - standard) = some wall := by
    have : wallAt ⟨standard, none⟩ (wall - standard) = wall := by
      simp only [wallAt, offsetAt_fixed]; omega
    rw [wallAt?_of_inRange (by rw [this]; exact hhere), this]
  have h3 : wallAt? ⟨standard, none⟩ (wall - standard - secondsPerDay) =
      some (wall - secondsPerDay) := by
    have : wallAt ⟨standard, none⟩ (wall - standard - secondsPerDay) = wall - secondsPerDay := by
      simp only [wallAt, offsetAt_fixed]; omega
    rw [wallAt?_of_inRange (by rw [this]; exact hbefore), this]
  have ha : wall + standard - wall = standard := by omega
  have hb : wall - secondsPerDay - (wall - standard - secondsPerDay) = standard := by omega
  simp [secondOf?, h1, ha, h2, h3, hb]

/-! ### Reading -/

/-- The name at the front of a zone text, in angle brackets or of letters, is dropped. -/
def dropName? : List Char → Option (List Char)
  | '<' :: s =>
    match s.dropWhile (· ≠ '>') with
    | '>' :: rest => some rest
    | _ => none
  | s => if (s.takeWhile Char.isAlpha).isEmpty then none else some (s.dropWhile Char.isAlpha)

/-- A number at the front of a text. -/
def number? (s : List Char) : Option (Nat × List Char) :=
  let digits := s.takeWhile Char.isDigit
  if digits.isEmpty then none else some (digitsValue digits, s.dropWhile Char.isDigit)

/-- Seconds, written as hours with optional minutes and seconds. -/
def clock? (s : List Char) : Option (Int × List Char) := do
  let (hours, s) ← number? s
  match s with
  | ':' :: s =>
    let (minutes, s) ← number? s
    match s with
    | ':' :: s =>
      let (seconds, s) ← number? s
      return (hours * 3600 + minutes * 60 + seconds, s)
    | s => return (hours * 3600 + minutes * 60, s)
  | s => return (hours * 3600, s)

/-- An offset at the front of a zone text, which counts to the west. -/
def offset? : List Char → Option (Int × List Char)
  | '-' :: s => clock? s
  | '+' :: s => (fun (t, rest) => (-t, rest)) <$> clock? s
  | s => (fun (t, rest) => (-t, rest)) <$> clock? s

/-- The character is dropped from the front. -/
def drop? (c : Char) (s : List Char) : Option (List Char) := dropStart? [c] s

/-- A rule at the front of a zone text; the second of the day is that of 02:00 if it is left
out. -/
def rule? (s : List Char) : Option (YearlyRule × List Char) := do
  let (month, s) ← number? (← drop? 'M' s)
  let (week, s) ← number? (← drop? '.' s)
  let (dayOfWeek, s) ← number? (← drop? '.' s)
  match s with
  | '/' :: s =>
    let (second, s) ← clock? s
    return (⟨month, week, dayOfWeek, second⟩, s)
  | s => return (⟨month, week, dayOfWeek, 7200⟩, s)

/-- The summer time at the end of a zone text; its offset is an hour ahead if it is left out. -/
def summer? (standard : Int) (s : List Char) : Option SummerTime := do
  let s ← dropName? s
  let (offset, s) := (offset? s).getD (standard + 3600, s)
  let (starts, s) ← rule? (← drop? ',' s)
  let (ends, s) ← rule? (← drop? ',' s)
  if s.isEmpty then return ⟨offset, starts, ends⟩ else none

/-- The zone that a text stands for: a name, an offset, and perhaps a summer time. -/
def ofText? (s : List Char) : Option Zone := do
  let s ← dropName? s
  let (standard, s) := (offset? s).getD (0, s)
  if s.isEmpty then return ⟨standard, none⟩
  else return ⟨standard, some (← summer? standard s)⟩

end Zone

end FileSieve.Calendar
