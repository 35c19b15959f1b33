import FileSieve.Number.Binary64
import FileSieve.Text.IntegerLiteral
import FileSieve.Text.LetterCase

/-!
# Floating point literals

A number as people type it: blanks around it, a sign, digits of any script with an optional point
and exponent, single low lines between digits; or the words for infinity and for no number.

* `ofDecimal_zero`: digits that are all zero stand for zero, whatever the exponent.
-/

namespace FileSieve.Binary64

open Text

/-- The digits of all scripts written in ASCII; other characters are kept. -/
def asciiDigits (s : List Char) : List Char :=
  s.map fun c => match digitValue? c with
    | some d => Char.ofNat (48 + d)
    | none => c

/-- The text without its low lines, each of which stands between two digits. -/
def ungrouped? : Bool → List Char → Option (List Char)
  | _, [] => some []
  | after, '_' :: rest =>
    if after && rest.head?.any Char.isDigit then ungrouped? false rest else none
  | _, c :: rest => (c :: ·) <$> ungrouped? c.isDigit rest

/-! ### Parts of a literal -/

/-- The exponent after an `e`, if the text is one. -/
def exponent? : List Char → Option Int
  | [] => some 0
  | c :: rest =>
    let (negative, digits) := splitSign rest
    if (c == 'e' || c == 'E') && !digits.isEmpty && digits.all Char.isDigit then
      let n : Int := digitsValue digits
      some (if negative then -n else n)
    else none

/-- The number nearest to the value of some digits times a power of ten. -/
def ofDecimal (digits : List Char) (exponent : Int) : Binary64 :=
  let significant := digits.dropWhile (· == '0')
  let magnitude : Int := significant.length + exponent
  if significant.isEmpty then .finite 0
  else if 400 < magnitude then .infinite false
  else if magnitude < -400 then .finite 0
  else
    let n := digitsValue significant
    ofRat (mkRat (n * Nat.pow 10 exponent.toNat) (Nat.pow 10 (-exponent).toNat))

theorem ofDecimal_zero {digits : List Char} (h : ∀ c ∈ digits, c = '0') (exponent : Int) :
    ofDecimal digits exponent = .finite 0 := by
  have : digits.dropWhile (· == '0') = [] := by
    induction digits with
    | nil => rfl
    | cons c rest ih =>
      have hc : c = '0' := h c List.mem_cons_self
      simp [List.dropWhile, hc, ih fun d hd => h d (List.mem_cons_of_mem _ hd)]
  simp [ofDecimal, this]

/-- The number of a decimal text without sign. -/
def decimal? (s : List Char) : Option Binary64 := do
  let whole := s.takeWhile Char.isDigit
  let rest := s.dropWhile Char.isDigit
  let (fraction, rest) :=
    match rest with
    | '.' :: rest => (rest.takeWhile Char.isDigit, rest.dropWhile Char.isDigit)
    | _ => ([], rest)
  if whole.isEmpty && fraction.isEmpty then none
  else
    let exponent ← exponent? rest
    return ofDecimal (whole ++ fraction) (exponent - fraction.length)

/-- The number that a word stands for. -/
def word? (s : List Char) : Option Binary64 :=
  let word := s.map Char.toLower
  if word = "inf".toList || word = "infinity".toList then some (.infinite false)
  else if word = "nan".toList then some .nan
  else none

/-- The number that a literal stands for. -/
def literal? (s : List Char) : Option Binary64 := do
  let plain ← ungrouped? false (asciiDigits (trimNumberBlanks s))
  let (negative, unsigned) := splitSign plain
  let x ← word? unsigned <|> decimal? unsigned
  return if negative then x.neg else x

end FileSieve.Binary64
