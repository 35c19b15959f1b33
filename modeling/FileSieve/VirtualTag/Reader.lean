import FileSieve.ByteSize
import FileSieve.ErrorCode
import FileSieve.Journal
import FileSieve.VirtualTag

/-!
# Reading virtual tags

The text before the first colon says what kind of tag it is; the rest is its value, which every
kind reads in its own way.
-/

namespace FileSieve

open Text Calendar

/-! ### Refusals -/

/-- What a refused text breaks. -/
inductive RejectedTag.Rule where
  /-- No particular rule. -/
  | general
  /-- There is a colon. -/
  | format
  /-- The prefix is known. -/
  | kind
  /-- The value is one of the kind. -/
  | value
  /-- The value is a size. -/
  | size
  /-- The value is a date. -/
  | date
  /-- The value is a count or a range of counts. -/
  | range
  /-- The value is a glob. -/
  | pattern
  deriving DecidableEq, Repr

/-- All rules. -/
def RejectedTag.Rule.all : List Rule :=
  [.general, .format, .kind, .value, .size, .date, .range, .pattern]

/-- How a broken rule is called. -/
def RejectedTag.Rule.label : Rule → String
  | .general => "Parse error"
  | .format => "Invalid virtual tag format"
  | .kind => "Unknown virtual tag prefix"
  | .value => "Invalid value"
  | .size => "Invalid size"
  | .date => "Invalid date"
  | .range => "Invalid range"
  | .pattern => "Invalid pattern"

/-- The code of a broken rule. -/
def RejectedTag.Rule.code : Rule → ErrorCode
  | .kind => .notFound
  | _ => .invalidInput

/-- A text that is refused. -/
structure RejectedTag where
  /-- The rule it breaks. -/
  rule : RejectedTag.Rule
  /-- The part of the text that breaks it. -/
  value : List Char
  /-- The code of the refusal. -/
  code : ErrorCode
  deriving DecidableEq, Repr

/-- A refusal with the code of its rule. -/
def RejectedTag.of (rule : Rule) (value : List Char) : RejectedTag :=
  ⟨rule, value, rule.code⟩

/-- The message of a refusal. -/
def RejectedTag.message (r : RejectedTag) : List Char :=
  r.rule.label.toList ++ ':' :: ' ' :: r.value

/-- What is noted about a refused text. -/
def RejectedTag.event (s : List Char) (r : RejectedTag) : Journal.Event :=
  .of "Virtual tag rejected" [("input", .text s), ("error", .text r.message)]

namespace VirtualTag

/-- Why a text is not read. -/
inductive ReadError where
  /-- The text is refused. -/
  | rejected (reason : RejectedTag)
  /-- A numeral is too long to be read. -/
  | numeralTooLong
  /-- A size is too large to be worked out. -/
  | sizeTooLarge
  deriving DecidableEq, Repr

/-- Refuses a value. -/
def reject {α : Type} (rule : RejectedTag.Rule) (value : List Char) : Except ReadError α :=
  .error (.rejected (.of rule value))

/-! ### Numbers -/

/-- The number of digits of a text that is known to be of digits. -/
def readNumeral (digits : List Char) : Except ReadError Nat :=
  match readDigits? digits with
  | some n => .ok n
  | none => .error .numeralTooLong

/-- A count of ASCII digits; `value` is what is refused otherwise. -/
def readCount (s value : List Char) : Except ReadError Nat :=
  if !s.isEmpty && s.all Char.isDigit then readNumeral s else reject .range value

/-- The number of bytes of a size literal, if it is one. -/
def readBytes? (s : List Char) : Except ReadError (Option Nat) :=
  (ByteSize.bytes? s).mapError fun _ => .sizeTooLarge

/-! ### Values -/

/-- The date that a text stands for, as the instant of its local midnight. -/
def readDate (zone : Zone) (s : List Char) : Except ReadError Instant :=
  match (Date.ofText? s).bind zone.midnight? with
  | some start => .ok start
  | none => reject .date s

/-- A number of days or hours back: the digits between `last-` and the unit. -/
def readLast (value : List Char) : Except ReadError TimeWindow :=
  let rest := value.drop "last-".length
  let digits := rest.takeWhile Char.isDigit
  let unit := rest.dropWhile Char.isDigit
  if digits.isEmpty then reject .value value
  else if unit = "-days".toList then return .lastDays (← readNumeral digits)
  else if unit = "-hours".toList then return .lastHours (← readNumeral digits)
  else reject .value value

/-- Two dates, each of three parts between dashes. -/
def readBetween (zone : Zone) (value rest : List Char) : Except ReadError TimeWindow :=
  match splitAtEach '-' rest with
  | [a, b, c, d, e, f] => do
    let start ← readDate zone (joinWith ['-'] [a, b, c])
    let stop ← readDate zone (joinWith ['-'] [d, e, f])
    return .between start stop
  | _ => reject .date value

/-- A date on its own: the 24 hours from its local midnight on. -/
def readBareDate (zone : Zone) (value : List Char) : Except ReadError TimeWindow := do
  let start ← readDate zone value
  match start.nextDay? with
  | some stop => return .between start stop
  | none => reject .date value

/-- A time window. -/
def readWindow (zone : Zone) (value : List Char) : Except ReadError TimeWindow :=
  match TimeWindow.Keyword.ofWord? value with
  | some keyword => .ok (.keyword keyword)
  | none =>
    -- with another ending, the value is tried as a date
    if (dropStart? "last-".toList value).isSome &&
        (endsWith "-days".toList value || endsWith "-hours".toList value) then
      readLast value
    else
      match dropStart? "after-".toList value, dropStart? "before-".toList value,
          dropStart? "between-".toList value with
      | some rest, _, _ => .after <$> readDate zone rest
      | none, some rest, _ => .before <$> readDate zone rest
      | none, none, some rest => readBetween zone value rest
      | none, none, none => readBareDate zone value

/-- A comparison of a size with a literal. -/
def readComparison (value rest : List Char) (test : Int → CountTest) :
    Except ReadError SizeTest := do
  match ← readBytes? rest with
  | some bytes => return .bytes (test bytes)
  | none => reject .size value

/-- Two size literals with a dash between them. -/
def readSizeRange (value : List Char) : Except ReadError SizeTest :=
  match splitAtEach '-' value with
  | [low, high] => do
    match ← readBytes? low, ← readBytes? high with
    | some least, some most => return .bytes (.range least most)
    | _, _ => reject .size value
  | _ => reject .size value

/-- A condition on a size. -/
def readSize (value : List Char) : Except ReadError SizeTest :=
  if value = "empty".toList then .ok .empty
  else
    match SizeCategory.ofWord? value, value with
    | some category, _ => .ok (.category category)
    | none, '>' :: rest => readComparison value rest .above
    | none, '<' :: rest => readComparison value rest .below
    | none, '=' :: rest => readComparison value rest .equals
    | none, _ => readSizeRange value

/-- A condition on a count. -/
def readCountTest (value : List Char) : Except ReadError CountTest :=
  match value with
  | '>' :: rest => do return .above (← readCount rest value)
  | '<' :: rest => do return .below (← readCount rest value)
  | _ =>
    match splitAtEach '-' value with
    -- no dash at all
    | [_] => do return .equals (← readCount value value)
    | [low, high] => do return .range (← readCount low value) (← readCount high value)
    | _ => reject .range value

/-- An extension: something that does not consist of dots. -/
def readExtension (value : List Char) : Except ReadError (List Char) :=
  if value.all (· == '.') then reject .value value else .ok (dottedExtension value)

/-- A word out of a list of words. -/
def readWord {α : Type} (ofWord? : List Char → Option α) (value : List Char) :
    Except ReadError α :=
  match ofWord? value with
  | some a => .ok a
  | none => reject .value value

/-- A directory. -/
def readDirectory (value : List Char) : Except ReadError Path :=
  if value.isEmpty then reject .value value else .ok (.ofText value)

/-- A glob. -/
def readGlob (value : List Char) : Except ReadError Glob :=
  match Glob.ofText value with
  | .ok glob => .ok glob
  | .error _ => reject .pattern value

/-! ### Tags -/

/-- The value of a tag of a kind. -/
def readValue (zone : Zone) (value : List Char) : Kind → Except ReadError VirtualTag
  | .modified => .modified <$> readWindow zone value
  | .created => .created <$> readWindow zone value
  | .accessed => .accessed <$> readWindow zone value
  | .size => .size <$> readSize value
  | .extension => .extension <$> readExtension value
  | .extensionFamily => .extensionFamily <$> readWord ExtensionFamily.ofWord? value
  | .directory => .directory <$> readDirectory value
  | .path => .path <$> readGlob value
  | .depth => .depth <$> readCountTest value
  | .permission => .permission <$> readWord PermissionTest.ofWord? value
  | .lines => .lines <$> readCountTest value
  | .git => .git <$> readWord GitState.ofWord? value

/-- The text before the first colon and the text after it. -/
def splitColon? (s : List Char) : Option (List Char × List Char) :=
  match s.dropWhile (· ≠ ':') with
  | ':' :: value => some (s.takeWhile (· ≠ ':'), value)
  | _ => none

/-- Reads a tag. -/
def read (zone : Zone) (s : List Char) : Except ReadError VirtualTag :=
  match splitColon? s with
  | none => reject .format s
  | some (word, value) =>
    match Kind.ofWord? word with
    | none => reject .kind word
    | some kind => readValue zone value kind

/-- Reads several tags; the first that is not read decides. -/
def readAll (zone : Zone) (texts : List (List Char)) : Except ReadError (List VirtualTag) :=
  texts.mapM (read zone)

/-- What is noted when a text was read. -/
def readEvents (s : List Char) : Except ReadError VirtualTag → List Journal.Event
  | .error (.rejected r) => [r.event s]
  | _ => []

end VirtualTag

end FileSieve
