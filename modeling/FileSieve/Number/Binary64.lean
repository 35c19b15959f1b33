import FileSieve.Number.Rounding

/-!
# Floating point numbers

The numbers of the 64-bit binary interchange format, kept by their exact values. Operations give
the number nearest to the exact result, the one with the even significand of two.

* `le_finite`: finite numbers are compared by value.
* `value_sub_of_exact`: a difference that is a floating point number is exact.
-/

namespace FileSieve

/-- A floating point number. -/
inductive Binary64 where
  /-- A number with a finite value; the value zero is the positive zero. -/
  | finite (value : Rat)
  /-- The negative zero. -/
  | negativeZero
  /-- An infinity. -/
  | infinite (negative : Bool)
  /-- No number. -/
  | nan
  deriving DecidableEq, Repr

namespace Binary64

/-! ### The grid -/

/-- The exponent of the greatest power of two that is at most `num / den`. -/
def floorLog (num den : Nat) : Int :=
  let k : Int := num.log2 - den.log2
  if den * Nat.pow 2 k.toNat ≤ num * Nat.pow 2 (-k).toNat then k else k - 1

/-- The floating point numbers around `num / den` are the multiples of two to this power. -/
def gridExponent (num den : Nat) : Int :=
  max (floorLog num den - 52) (-1074)

/-- The multiple of `2 ^ e` nearest to `num / den`, as a factor. -/
def gridSteps (num den : Nat) (e : Int) : Nat :=
  roundedQuotient (num * Nat.pow 2 (-e).toNat) (den * Nat.pow 2 e.toNat)

/-- The value `m * 2 ^ e`. -/
def scaled (m : Int) (e : Int) : Rat :=
  mkRat (m * Nat.pow 2 e.toNat) (Nat.pow 2 (-e).toNat)

/-- The least power of two that is no floating point number. -/
def limit : Rat := scaled 1 1024

/-- The value with the given sign whose magnitude is nearest to `num / den`. -/
def nearestMagnitude (num den : Nat) : Rat :=
  let e := gridExponent num den
  scaled (gridSteps num den e) e

/-- The floating point number nearest to a value. -/
def ofRat (x : Rat) : Binary64 :=
  let v := nearestMagnitude x.num.natAbs x.den
  if limit ≤ v then .infinite (x < 0)
  else if x < 0 then (if v = 0 then .negativeZero else .finite (-v))
  else .finite v

/-- The floating point number nearest to a whole number, if it is not too large. -/
def ofInt? (n : Int) : Option Binary64 :=
  match ofRat n with
  | .infinite _ => none
  | x => some x

/-! ### Order -/

/-- The value of a finite number; anything else counts as zero. -/
def value : Binary64 → Rat
  | .finite v => v
  | _ => 0

/-- Is the first number at most the second? Never for a missing number. -/
def le : Binary64 → Binary64 → Bool
  | .nan, _ => false
  | _, .nan => false
  | .infinite true, _ => true
  | _, .infinite false => true
  | .infinite false, _ => false
  | _, .infinite true => false
  | a, b => a.value ≤ b.value

/-- Is the first number less than the second? -/
def lt (a b : Binary64) : Bool := a.le b && !b.le a

/-- Are the numbers equal? The two zeros are, and a missing number is not equal to itself. -/
def same (a b : Binary64) : Bool := a.le b && b.le a

theorem le_finite {v w : Rat} : (finite v).le (finite w) = decide (v ≤ w) := rfl

theorem lt_finite {v w : Rat} : (finite v).lt (finite w) = decide (v < w) := by
  have h : (!decide (w ≤ v)) = decide (v < w) := by
    rw [← decide_not, decide_eq_decide]
    exact Rat.not_le
  simp only [lt, le_finite, h]
  by_cases hvw : v < w
  · simp [hvw, Rat.le_of_lt hvw]
  · simp [hvw]

/-! ### Arithmetic -/

/-- The number with the other sign. -/
def neg : Binary64 → Binary64
  | .finite v => if v = 0 then .negativeZero else .finite (-v)
  | .negativeZero => .finite 0
  | .infinite negative => .infinite !negative
  | .nan => .nan

/-- The difference of two numbers. -/
def sub : Binary64 → Binary64 → Binary64
  | .nan, _ => .nan
  | _, .nan => .nan
  | .infinite s, .infinite t => if s = t then .nan else .infinite s
  | .infinite s, _ => .infinite s
  | _, .infinite t => .infinite !t
  | .negativeZero, .finite v => if v = 0 then .negativeZero else ofRat (-v)
  | a, b => ofRat (a.value - b.value)

/-- The sum of two numbers. -/
def add (a b : Binary64) : Binary64 := a.sub b.neg

theorem value_sub_of_exact {v w : Rat} (h : ofRat (v - w) = .finite (v - w)) :
    ((finite v).sub (finite w)).value = v - w := by
  change (ofRat (v - w)).value = v - w
  rw [h]
  rfl

/-! ### Bits -/

/-- The number with the given bits. -/
def ofBits (bits : Nat) : Binary64 :=
  let negative := bits / Nat.pow 2 63 % 2 = 1
  let biased : Nat := bits / Nat.pow 2 52 % Nat.pow 2 11
  let fraction : Nat := bits % Nat.pow 2 52
  if biased = 2047 then
    if fraction = 0 then .infinite negative else .nan
  else
    let magnitude : Rat :=
      if biased = 0 then scaled fraction (-1074)
      else scaled (fraction + Nat.pow 2 52 : Nat) ((biased : Int) - 1075)
    if negative then (finite magnitude).neg else .finite magnitude

/-- The bits of a positive value, given by numerator and denominator. -/
def magnitudeBits (num den : Nat) : Nat :=
  let e := gridExponent num den
  let m := gridSteps num den e
  if m < Nat.pow 2 52 then m else (e + 1074).toNat * Nat.pow 2 52 + m

/-- The bits of a number. -/
def toBits : Binary64 → Nat
  | .finite v =>
    if v = 0 then 0
    else (if v < 0 then Nat.pow 2 63 else 0) + magnitudeBits v.num.natAbs v.den
  | .negativeZero => Nat.pow 2 63
  | .infinite negative => (if negative then Nat.pow 2 63 else 0) + 2047 * Nat.pow 2 52
  | .nan => 2047 * Nat.pow 2 52 + Nat.pow 2 51

end Binary64

end FileSieve
