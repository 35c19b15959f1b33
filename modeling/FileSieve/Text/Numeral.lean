import FileSieve.Text.Digit

/-!
# Decimal numerals

Numbers are written with ASCII digits and read from the digits of any script. A numeral of more
than 4300 digits is neither written nor read.

* `digitsValue_toDigits`: reading what was written gives the number back.
* `numeral?_eq_none_iff`: the numbers without a written form.
-/

namespace FileSieve.Text

/-- The longest numeral that is written or read, in digits. -/
def maxNumeralLength : Nat := 4300

/-- The number written by a text of digits; anything else counts as a zero. -/
def digitsValue (s : List Char) : Nat :=
  s.foldl (fun value c => 10 * value + (digitValue? c).getD 0) 0

/-- The numeral of a number, if it is not too long. -/
def numeral? (n : Nat) : Option (List Char) :=
  if n < Nat.pow 10 maxNumeralLength then some (Nat.toDigits 10 n) else none

/-- The numeral of a number with its sign, if it is not too long. -/
def signedNumeral? : Int → Option (List Char)
  | .ofNat n => numeral? n
  | .negSucc n => ('-' :: ·) <$> numeral? (n + 1)

/-- The number a text of digits stands for, if the text is not too long. -/
def readDigits? (s : List Char) : Option Nat :=
  if s.length ≤ maxNumeralLength then some (digitsValue s) else none

theorem numeral?_eq_none_iff {n : Nat} : numeral? n = none ↔ Nat.pow 10 maxNumeralLength ≤ n := by
  simp [numeral?]

theorem digitsValue_eq_ofDigitChars {s : List Char} (h : ∀ c ∈ s, c.isDigit = true) :
    digitsValue s = Nat.ofDigitChars 10 s 0 := by
  suffices ∀ start, s.foldl (fun value c => 10 * value + (digitValue? c).getD 0) start =
      Nat.ofDigitChars 10 s start from this 0
  induction s with
  | nil => intro; rfl
  | cons c rest ih =>
    intro start
    rw [List.foldl_cons, ih (fun d hd => h d (List.mem_cons_of_mem _ hd)),
      digitValue_ascii (h c List.mem_cons_self), Nat.ofDigitChars_cons]
    rfl

theorem digitsValue_toDigits (n : Nat) : digitsValue (Nat.toDigits 10 n) = n := by
  rw [digitsValue_eq_ofDigitChars fun c hc =>
    Nat.isDigit_of_mem_toDigits (by decide) (by decide) hc]
  exact Nat.ofDigitChars_ten_toDigits

end FileSieve.Text
