import FileSieve.Number.Binary64

/-!
# Shortest decimal text

A floating point number is written with the fewest digits that are read back as the same number,
and with the nearest of those. Numbers from `0.0001` up to below `10 ^ 16` are written
positionally, all others with an exponent.

* `rounding_interval_mem`: the number itself lies between the bounds of its interval.
* `decimalText_whole`: digits before the point only are followed by `.0`.
-/

namespace FileSieve.Binary64

/-! ### Digits -/

/-- The number of decimal digits. -/
def digitCount (n : Nat) : Nat := (Nat.toDigits 10 n).length

/-- The exponent of the greatest power of ten that is at most `num / den`. -/
def floorLogTen (num den : Nat) : Int :=
  let k : Int := digitCount num - digitCount den
  if den * Nat.pow 10 k.toNat ≤ num * Nat.pow 10 (-k).toNat then k else k - 1

/-- A number and the interval of values that are read as it, in quarter steps of its grid. -/
structure Interval where
  /-- The lower bound. -/
  low : Nat
  /-- The number. -/
  middle : Nat
  /-- The upper bound. -/
  high : Nat
  /-- Do the bounds belong to it? -/
  closed : Bool

/-- The interval around the number `m * 2 ^ e`; below a power of two the grid is twice as fine. -/
def interval (m : Nat) (e : Int) : Interval where
  low := if m = Nat.pow 2 52 ∧ -1074 < e then 4 * m - 1 else 4 * m - 2
  middle := 4 * m
  high := 4 * m + 2
  closed := m % 2 = 0

theorem rounding_interval_mem {m : Nat} {e : Int} :
    (interval m e).low ≤ (interval m e).middle ∧
      (interval m e).middle < (interval m e).high := by
  simp only [interval]
  split <;> omega

/-- Does the interval hold the value `c * a / b`, in quarter steps? -/
def Interval.contains (i : Interval) (a b c : Nat) : Bool :=
  if i.closed then i.low * b ≤ c * a && c * a ≤ i.high * b
  else i.low * b < c * a && c * a < i.high * b

/-- The better of the two multiples of `10 ^ k` around the number, if the interval holds one:
the nearer, and the even one at a tie. -/
def Interval.multiple? (i : Interval) (e k : Int) : Option Nat :=
  let a := Nat.pow 10 k.toNat * Nat.pow 2 (2 - e).toNat
  let b := Nat.pow 10 (-k).toNat * Nat.pow 2 (e - 2).toNat
  let below := i.middle * b / a
  let nearer := roundedQuotient (i.middle * b) a
  if i.contains a b nearer then some nearer
  else
    let other := if nearer = below then below + 1 else below
    if i.contains a b other then some other else none

/-- The digits and the exponent of ten of the shortest text, trying up to `n` digits more. -/
def Interval.shortest (i : Interval) (e top : Int) : Nat → Nat × Int
  | 0 => (0, top)
  | n + 1 =>
    let k := top - (16 - n : Nat)
    match i.multiple? e k with
    | some c => (c, k)
    | none => i.shortest e top n

/-- The digits of a positive value, and how many of them stand before the point. -/
def shortestDigits (num den : Nat) : List Char × Int :=
  let e := gridExponent num den
  let i := interval (gridSteps num den e) e
  let (c, k) := i.shortest e (floorLogTen num den) 17
  let digits := Nat.toDigits 10 c
  let kept := (digits.reverse.dropWhile (· == '0')).reverse
  (kept, digits.length + k)

/-! ### Text -/

/-- The exponent of a decimal text: a sign and at least two digits. -/
def exponentText (e : Int) : List Char :=
  let digits := Nat.toDigits 10 e.natAbs
  (if e < 0 then '-' else '+') :: (List.replicate (2 - digits.length) '0' ++ digits)

/-- Digits with the point after the given number of them. -/
def decimalText (digits : List Char) (point : Int) : List Char :=
  if -4 < point ∧ point ≤ 16 then
    if point ≤ 0 then
      ['0', '.'] ++ List.replicate (-point).toNat '0' ++ digits
    else
      let whole := digits.take point.toNat
      let rest := digits.drop point.toNat
      whole ++ List.replicate (point.toNat - whole.length) '0' ++
        '.' :: (if rest = [] then ['0'] else rest)
  else
    let rest := digits.tail
    digits.take 1 ++ (if rest = [] then [] else '.' :: rest) ++ 'e' :: exponentText (point - 1)

theorem decimalText_whole {digits : List Char} (h : digits ≠ []) (hlen : digits.length ≤ 16) :
    decimalText digits digits.length = digits ++ ['.', '0'] := by
  have hrange : -4 < (digits.length : Int) ∧ (digits.length : Int) ≤ 16 := by omega
  simp [decimalText, hrange, h]

/-- The text of a number. -/
def text : Binary64 → List Char
  | .finite v =>
    if v = 0 then ['0', '.', '0']
    else
      let (digits, point) := shortestDigits v.num.natAbs v.den
      (if v < 0 then ['-'] else []) ++ decimalText digits point
  | .negativeZero => ['-', '0', '.', '0']
  | .infinite negative => (if negative then ['-'] else []) ++ ['i', 'n', 'f']
  | .nan => ['n', 'a', 'n']

end FileSieve.Binary64
