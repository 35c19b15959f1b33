import FileSieve.Calendar.Zone
import FileSieve.Number.Binary64

/-!
# Instants

Points in time to the microsecond, and the dates and midnights that a zone gives them.

* `text_padded`: a year has at least four digits, a month and a day two.
* `midnight?_fixed`: without summer time a local midnight is found by taking the offset away.
-/

namespace FileSieve.Calendar

open Text

/-! ### Text of dates -/

/-- A number with zeros in front up to a width. -/
def padded (width n : Nat) : List Char :=
  let digits := Nat.toDigits 10 n
  List.replicate (width - digits.length) '0' ++ digits

/-- The text of a date. -/
def Date.text (d : Date) : List Char :=
  padded 4 d.year.toNat ++ '-' :: padded 2 d.month ++ '-' :: padded 2 d.day.toNat

theorem text_padded {width n : Nat} : width ≤ (padded width n).length := by
  simp only [padded, List.length_append, List.length_replicate]
  omega

/-! ### Reading dates -/

/-- A month at the front of a text: two digits up to 12, or one digit. -/
def month? : List Char → Option (Nat × List Char)
  | '1' :: '0' :: s => some (10, s)
  | '1' :: '1' :: s => some (11, s)
  | '1' :: '2' :: s => some (12, s)
  | '0' :: c :: s => if '1' ≤ c ∧ c ≤ '9' then some (digitsValue [c], s) else none
  | c :: s => if '1' ≤ c ∧ c ≤ '9' then some (digitsValue [c], s) else none
  | [] => none

/-- The value of a digit from 1 to 9. -/
def nonzeroDigit? (c : Char) : Option Nat :=
  if '1' ≤ c ∧ c ≤ '9' then some (digitsValue [c]) else none

/-- A day that is a whole text: two digits up to 31, or one digit, or a blank and a digit. The
last digit of a day from the tenth to the twenty-ninth may be of any script. -/
def day? : List Char → Option Nat
  | [c] => nonzeroDigit? c
  | [tens, c] =>
    if tens = '0' ∨ tens = ' ' then nonzeroDigit? c
    else if tens = '1' then (10 + ·) <$> digitValue? c
    else if tens = '2' then (20 + ·) <$> digitValue? c
    else if tens = '3' ∧ (c = '0' ∨ c = '1') then some (30 + digitsValue [c])
    else none
  | _ => none

/-- The date that a text stands for: a year of four digits of any script, a month and a day. -/
def Date.ofText? (s : List Char) : Option Date := do
  let year := s.take 4
  if year.length = 4 ∧ year.all isDigit then
    let rest ← dropStart? ['-'] (s.drop 4)
    let (month, rest) ← month? rest
    let day ← day? (← dropStart? ['-'] rest)
    -- the month may have no such day
    let date : Date := ⟨digitsValue year, month, day⟩
    if date.isValid then some date else none
  else none

/-! ### Instants -/

/-- A point in time, in microseconds since the epoch. -/
structure Instant where
  micros : Int
  deriving DecidableEq, Repr

namespace Instant

/-- The microseconds of a second. -/
def perSecond : Int := 1000000

/-- The instant at a second of the epoch. -/
def ofSecond (t : Int) : Instant := ⟨t * perSecond⟩

/-- The second of the epoch in which the instant falls. -/
def second (i : Instant) : Int := i.micros / perSecond

/-- Is the instant within the years that dates may have? -/
def inRange (i : Instant) : Bool := Zone.inRange i.second

/-- The instant a day later, if it is within the years that dates may have. -/
def nextDay? (i : Instant) : Option Instant :=
  let next : Instant := ⟨i.micros + secondsPerDay * perSecond⟩
  if next.inRange then some next else none

/-- The seconds since the epoch. -/
def timestamp (i : Instant) : Binary64 :=
  .ofRat (mkRat i.micros perSecond.toNat)

/-- The date in a zone, if it is within the years that dates may have. -/
def localDate? (zone : Zone) (i : Instant) : Option Date := do
  let wall ← zone.wallAt? i.second
  return .ofDayNumber (wall / secondsPerDay)

/-- The date and time of day in universal time. -/
def text (i : Instant) : List Char :=
  let t := i.second
  let inDay := (t % secondsPerDay).toNat
  let micros := (i.micros % perSecond).toNat
  (Date.ofDayNumber (t / secondsPerDay)).text ++ 'T' :: padded 2 (inDay / 3600) ++
    ':' :: padded 2 (inDay / 60 % 60) ++ ':' :: padded 2 (inDay % 60) ++
    (if micros = 0 then [] else '.' :: padded 6 micros) ++ "+00:00".toList

theorem second_ofSecond (t : Int) : (ofSecond t).second = t := by
  simp [ofSecond, second, perSecond]

end Instant

/-- The instant of the midnight with which a date starts in a zone. A midnight that the clock
skips is read with the offset after the gap. -/
def Zone.midnight? (zone : Zone) (d : Date) : Option Instant := do
  let wall := d.dayNumber * secondsPerDay
  let near ← zone.secondOf? wall
  let t := wall - zone.offsetAt near
  if inRange t && inRange (zone.wallAt t) then some (.ofSecond t) else none

theorem Zone.midnight?_fixed {standard : Int} {d : Date}
    (hahead : inRange (d.dayNumber * secondsPerDay + standard) = true)
    (hhere : inRange (d.dayNumber * secondsPerDay) = true)
    (hbefore : inRange (d.dayNumber * secondsPerDay - secondsPerDay) = true)
    (hbehind : inRange (d.dayNumber * secondsPerDay - standard) = true) :
    midnight? ⟨standard, none⟩ d =
      some (.ofSecond (d.dayNumber * secondsPerDay - standard)) := by
  have hwall : wallAt ⟨standard, none⟩ (d.dayNumber * secondsPerDay - standard) =
      d.dayNumber * secondsPerDay := by
    simp only [wallAt, offsetAt_fixed]; omega
  simp [midnight?, secondOf?_fixed hahead hhere hbefore, offsetAt_fixed, hbehind, hwall, hhere]

end FileSieve.Calendar
