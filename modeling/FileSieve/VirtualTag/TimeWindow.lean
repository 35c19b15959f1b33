import FileSieve.Calendar.Clock

/-!
# Time windows

A time window is a keyword, a number of days or hours back from now, or bounded by instants. A
window that starts at an instant holds it, and a window that ends at one does not.

* `covers_after`, `covers_before`, `covers_between`: windows that are bounded by instants.
* `Keyword.ofWord?_word`: a keyword is found by its word.
-/

namespace FileSieve

open Text Calendar

/-! ### Windows -/

/-- A window that needs no value. -/
inductive TimeWindow.Keyword where
  | today
  | yesterday
  | thisWeek
  | thisMonth
  | thisYear
  deriving DecidableEq, Repr

/-- A time window. -/
inductive TimeWindow where
  /-- A window that needs no value. -/
  | keyword (keyword : TimeWindow.Keyword)
  /-- From so many days ago on. -/
  | lastDays (amount : Int)
  /-- From so many hours ago on. -/
  | lastHours (amount : Int)
  /-- From an instant on. -/
  | after (start : Instant)
  /-- Before an instant. -/
  | before (stop : Instant)
  /-- From one instant on and before another. -/
  | between (start stop : Instant)
  deriving DecidableEq, Repr

namespace TimeWindow

/-- The word for a keyword. -/
def Keyword.word : Keyword → String
  | .today => "today"
  | .yesterday => "yesterday"
  | .thisWeek => "this-week"
  | .thisMonth => "this-month"
  | .thisYear => "this-year"

/-- The keyword with a word. -/
def Keyword.ofWord? (s : List Char) : Option Keyword :=
  [Keyword.today, .yesterday, .thisWeek, .thisMonth, .thisYear].find? fun keyword =>
    keyword.word.toList = s

theorem Keyword.ofWord?_word (keyword : Keyword) :
    ofWord? keyword.word.toList = some keyword := by
  cases keyword <;> decide

/-! ### Text -/

end TimeWindow

/-- Why a condition has no text. -/
inductive TextFault where
  /-- A numeral is too long to be written. -/
  | numeralTooLong
  /-- A local date leaves the years that dates may have. -/
  | dateOutOfRange
  deriving DecidableEq, Repr

/-- The numeral of a number. -/
def numeralText (n : Int) : Except TextFault (List Char) :=
  match signedNumeral? n with
  | some s => .ok s
  | none => .error .numeralTooLong

namespace TimeWindow

/-- The local date of an instant. -/
def dateText (zone : Zone) (i : Instant) : Except TextFault (List Char) :=
  match i.localDate? zone with
  | some d => .ok d.text
  | none => .error .dateOutOfRange

/-- The text of a window; instants are told by their local dates. -/
def text (zone : Zone) : TimeWindow → Except TextFault (List Char)
  | .keyword k => .ok k.word.toList
  | .lastDays amount => do
    return "last-".toList ++ (← numeralText amount) ++ "-days".toList
  | .lastHours amount => do
    return "last-".toList ++ (← numeralText amount) ++ "-hours".toList
  | .after start => do return "after-".toList ++ (← dateText zone start)
  | .before stop => do return "before-".toList ++ (← dateText zone stop)
  | .between start stop => do
    return "between-".toList ++ (← dateText zone start) ++ '-' :: (← dateText zone stop)

/-! ### Membership -/

/-- Does a time lie in the window of a keyword, when the clock shows the given reading? -/
def Keyword.covers (zone : Zone) (now : Reading) (t : Binary64) :
    Keyword → Except TimeFault Bool
  | .today => do
    if (← now.dayStart zone now.day).le t then return t.le (← now.timestamp zone)
    else return false
  | .yesterday => do
    if (← now.dayStart zone (← now.dayBefore)).le t then
      return t.lt (← now.dayStart zone now.day)
    else return false
  | .thisWeek => do return (← now.dayStart zone (now.day - weekday now.day)).le t
  | .thisMonth => do
    let first : Date := { now.date with day := 1 }
    return (← now.dayStart zone first.dayNumber).le t
  | .thisYear => do
    let first : Date := { now.date with month := 1, day := 1 }
    return (← now.dayStart zone first.dayNumber).le t

/-- Is a time at most so many seconds before now? -/
def isWithin (zone : Zone) (now : Reading) (t : Binary64) (seconds : Int) :
    Except TimeFault Bool := do
  let present ← now.timestamp zone
  match Binary64.ofInt? seconds with
  | none => .error .tooManySeconds
  | some seconds => return (present.sub seconds).le t

/-- Does a time lie in the window, when the clock shows the given reading? -/
def covers (zone : Zone) (now : Reading) (t : Binary64) : TimeWindow → Except TimeFault Bool
  | .keyword k => k.covers zone now t
  | .lastDays amount => isWithin zone now t (amount * 86400)
  | .lastHours amount => isWithin zone now t (amount * 3600)
  | .after start => .ok (start.timestamp.le t)
  | .before stop => .ok (t.lt stop.timestamp)
  | .between start stop => .ok (start.timestamp.le t && t.lt stop.timestamp)

variable {zone : Zone} {now : Reading} {t : Binary64} {start stop : Instant}

theorem covers_after : covers zone now t (.after start) = .ok (start.timestamp.le t) := rfl

theorem covers_before : covers zone now t (.before stop) = .ok (t.lt stop.timestamp) := rfl

theorem covers_between :
    covers zone now t (.between start stop) =
      .ok (start.timestamp.le t && t.lt stop.timestamp) := rfl

end TimeWindow

end FileSieve
