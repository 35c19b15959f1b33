import FileSieve.Number.FloatLiteral
import FileSieve.Value
import FileSieve.Yaml.Text

/-!
# Plain scalars

What a plain text stands for: a word may be null or a truth value, and numbers have several
notations. Everything else is a text.
-/

namespace FileSieve.Yaml

open Text

/-! ### Words -/

/-- The words for null. -/
def nullWords : List String := ["", "~", "null", "Null", "NULL"]

/-- The words for truth. -/
def trueWords : List String := ["yes", "Yes", "YES", "true", "True", "TRUE", "on", "On", "ON"]

/-- The words for falsehood. -/
def falseWords : List String :=
  ["no", "No", "NO", "false", "False", "FALSE", "off", "Off", "OFF"]

/-- Is a text one of some words? -/
def isOneOf (words : List String) (s : List Char) : Bool := words.any fun word => word.toList = s

/-! ### Whole numbers -/

/-- The text without low lines. -/
def ungroup (s : List Char) : List Char := s.filter (· ≠ '_')

/-- Is the character a digit of the given base, or a low line? -/
def isGroupedDigit (base : Nat) (c : Char) : Bool :=
  c == '_' || (hexValue? c).any (· < base)

/-- The number that digits of a base stand for. -/
def baseNumber (base : Nat) (s : List Char) : Nat :=
  s.foldl (fun n c => n * base + (hexValue? c).getD 0) 0

/-- Is the text the number of minutes or seconds in a time: one digit, or two of which the first
is at most five? -/
def isSixtieth : List Char → Bool
  | [c] => c.isDigit
  | [c, d] => '0' ≤ c && c ≤ '5' && d.isDigit
  | _ => false

/-- Whole numbers with one between them and the next taken sixty times. -/
def sexagesimal? (pieces : List (List Char)) : Option Nat :=
  pieces.foldlM (fun n piece => do return n * 60 + (← readDigits? (ungroup piece))) 0

/-- The whole number that a text without sign stands for, if it is written as one. -/
def magnitude? : List Char → Option (Except Error Nat)
  | '0' :: 'b' :: digits =>
    if !digits.isEmpty && digits.all (isGroupedDigit 2) then some (based 2 digits) else none
  | '0' :: 'x' :: digits =>
    if !digits.isEmpty && digits.all (isGroupedDigit 16) then some (based 16 digits) else none
  | '0' :: digits =>
    if digits.all (isGroupedDigit 8) then some (.ok (baseNumber 8 (ungroup digits))) else none
  | s =>
    match splitAtEach ':' s with
    | [] => none
    | first :: more =>
      if first.head?.any Char.isDigit && first.all (isGroupedDigit 10) && more.all isSixtieth then
        some (match sexagesimal? (first :: more) with
          | some n => .ok n
          | none => .error .brokeOff)
      else none
where
  /-- The number of some digits of a base; there has to be one. -/
  based (base : Nat) (digits : List Char) : Except Error Nat :=
    if (ungroup digits).isEmpty then .error .brokeOff else .ok (baseNumber base (ungroup digits))

/-! ### Floating point numbers -/

/-- Is the text empty or an exponent with a sign? -/
def isExponent : List Char → Bool
  | [] => true
  | e :: sign :: digits =>
    (e == 'e' || e == 'E') && (sign == '+' || sign == '-') && !digits.isEmpty &&
      digits.all Char.isDigit
  | _ => false

/-- The product of a finite number with a whole number. -/
def timesNat (x : Binary64) (n : Nat) : Binary64 := .ofRat (x.value * n)

/-- The sum of some numbers, of which each counts sixty times the one before; `base` is what the
first one counts. -/
def sixtyfoldSum? (sum : Binary64) (base : Nat) : List (List Char) → Option Binary64
  | [] => some sum
  | piece :: rest => do
    let x ← Binary64.literal? (ungroup piece)
    sixtyfoldSum? (Binary64.add sum (timesNat x base)) (base * 60) rest

/-- Is the text digits, a point and perhaps more digits? -/
def isPointed (s : List Char) : Bool :=
  let front := s.takeWhile (isGroupedDigit 10)
  match s.drop front.length with
  | '.' :: rest => front.head?.any Char.isDigit && rest.all (isGroupedDigit 10)
  | _ => false

/-- The floating point number that a text without sign stands for, if it is written as one. -/
def real? (signed : Bool) (s : List Char) : Option Binary64 :=
  if isOneOf [".inf", ".Inf", ".INF"] s then some (.infinite false)
  else if isOneOf [".nan", ".NaN", ".NAN"] s then (if signed then none else some .nan)
  else
    let front := s.takeWhile (isGroupedDigit 10)
    match s.drop front.length with
    | '.' :: rest =>
      let tail := rest.takeWhile (isGroupedDigit 10)
      let start := if front.isEmpty then tail else front
      if start.head?.any Char.isDigit && !(front.isEmpty && signed) &&
          isExponent (rest.drop tail.length) then
        Binary64.literal? (ungroup s)
      else none
    | ':' :: _ =>
      let pieces := splitAtEach ':' s
      if front.head?.any Char.isDigit && (pieces.drop 1).dropLast.all isSixtieth &&
          (pieces.getLast?.any fun last =>
            isPointed last && isSixtieth (last.takeWhile (· ≠ '.'))) then
        sixtyfoldSum? (.finite 0) 1 pieces.reverse
      else none
    | _ => none

/-! ### Scalars -/

/-- A sign, `true` for minus, if there is one, and what follows it. -/
def splitSign? : List Char → Option Bool × List Char
  | '-' :: s => (some true, s)
  | '+' :: s => (some false, s)
  | s => (none, s)

/-- The value that a plain text stands for. -/
def ofPlain (s : List Char) : Except Error Value :=
  if isOneOf nullWords s then .ok .null
  else if isOneOf trueWords s then .ok (.bool true)
  else if isOneOf falseWords s then .ok (.bool false)
  else if isOneOf ["<<", "="] s then .error .malformed
  else
    let (sign, digits) := splitSign? s
    match real? sign.isSome digits, magnitude? digits with
    | some x, _ => .ok (.float (if sign = some true then x.neg else x))
    | none, some n => do
      let n ← n
      return .int (if sign = some true then -n else n)
    | none, none => .ok (.text s)

end FileSieve.Yaml
