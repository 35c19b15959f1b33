import FileSieve.Text.LetterCase

/-!
# Levels of a journal

How urgent a line is. Levels are ordered by their numbers and may be named in any letter case.

* `ofNumber?_number`, `ofName?_name`: a level is found by its number and by its name.
-/

namespace FileSieve.Journal

/-- How urgent a line is. -/
inductive Level where
  | debug
  | info
  | warning
  | error
  | critical
  deriving DecidableEq, Repr

namespace Level

/-- The number of a level. -/
def number : Level → Nat
  | .debug => 10
  | .info => 20
  | .warning => 30
  | .error => 40
  | .critical => 50

/-- The name of a level. -/
def name : Level → String
  | .debug => "DEBUG"
  | .info => "INFO"
  | .warning => "WARNING"
  | .error => "ERROR"
  | .critical => "CRITICAL"

/-- All levels. -/
def all : List Level := [.debug, .info, .warning, .error, .critical]

/-- The capital of a letter in a level name; the dotless `ı` has the capital `I`. -/
def capital (c : Char) : Char :=
  if c == 'ı' then 'I' else c.toUpper

/-- The level with a number. -/
def ofNumber? (n : Int) : Option Level :=
  all.find? fun level => level.number = n

/-- The level with a name, in any letter case. -/
def ofName? (s : List Char) : Option Level :=
  all.find? fun level => level.name.toList = s.map capital

theorem ofNumber?_number (level : Level) : ofNumber? level.number = some level := by
  cases level <;> decide

theorem ofName?_name (level : Level) : ofName? level.name.toList = some level := by
  cases level <;> decide

/-- Is a line of this level kept where the given level is the least? -/
def reaches (level least : Level) : Bool :=
  least.number ≤ level.number

end Level

end FileSieve.Journal
