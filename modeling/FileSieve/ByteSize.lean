import FileSieve.Number.Rounding
import FileSieve.Text.Blank
import FileSieve.Text.LetterCase
import FileSieve.Text.Numeral

/-!
# Size literals

A size literal is an amount with an optional unit: powers of 1000, or powers of 1024 for the
units with an `i`. The amount times the unit is rounded to 28 significant digits, a half going to
the even digit, and what is less than a byte is dropped.

* `Significand.rounded_of_short`: a product of at most 28 digits is kept.
* `unitFactor?_pos`: every unit is at least one byte.
-/

namespace FileSieve.ByteSize

open Text

/-! ### Amounts -/

/-- A decimal number `digits * 10 ^ exponent`. -/
structure Significand where
  /-- The digits, as a whole number. -/
  digits : Nat
  /-- The power of ten. -/
  exponent : Int
  deriving DecidableEq, Repr

namespace Significand

/-- The number of digits that are kept. -/
def precision : Nat := 28

/-- The highest power of ten that the first digit may stand for. -/
def highestPower : Int := 999999

/-- The number of decimal digits. -/
def length (x : Significand) : Nat := (Nat.toDigits 10 x.digits).length

/-- The number with at most 28 digits, the last of them rounded. -/
def rounded (x : Significand) : Significand :=
  let extra := x.length - precision
  if extra = 0 then x
  else ⟨roundedQuotient x.digits (Nat.pow 10 extra), x.exponent + extra⟩

/-- The number of whole units. -/
def floor (x : Significand) : Nat :=
  x.digits * Nat.pow 10 x.exponent.toNat / Nat.pow 10 (-x.exponent).toNat

theorem rounded_of_short {x : Significand} (h : x.length ≤ precision) : x.rounded = x := by
  simp [rounded, Nat.sub_eq_zero_of_le h]

end Significand

/-! ### Units -/

/-- The units and how many bytes each is. -/
def units : List (String × Nat) :=
  [("", 1), ("b", 1), ("k", 1000), ("kb", 1000), ("m", Nat.pow 1000 2), ("mb", Nat.pow 1000 2),
    ("g", Nat.pow 1000 3), ("gb", Nat.pow 1000 3), ("t", Nat.pow 1000 4), ("tb", Nat.pow 1000 4),
    ("p", Nat.pow 1000 5), ("pb", Nat.pow 1000 5), ("kib", 1024), ("mib", Nat.pow 1024 2),
    ("gib", Nat.pow 1024 3), ("tib", Nat.pow 1024 4), ("pib", Nat.pow 1024 5)]

/-- How many bytes a unit is, in any letter case. -/
def unitFactor? (unit : List Char) : Option Nat :=
  units.lookup (.ofList (lowerText unit))

theorem unitFactor?_pos {unit : List Char} {factor : Nat} (h : unitFactor? unit = some factor) :
    0 < factor := by
  have hall : ∀ entry ∈ units, 0 < entry.2 := by decide
  obtain ⟨_, hmem⟩ : ∃ name, (name, factor) ∈ units := by
    revert h
    unfold unitFactor?
    generalize String.ofList (lowerText unit) = name
    induction units with
    | nil => intro h; simp at h
    | cons entry rest ih =>
      intro h
      rw [List.lookup_cons] at h
      split at h
      · cases h
        exact ⟨entry.1, List.mem_cons_self⟩
      · obtain ⟨n, hn⟩ := ih h
        exact ⟨n, List.mem_cons_of_mem _ hn⟩
  exact hall _ hmem

/-! ### Literals -/

/-- The amount of a literal and the text after it: digits of any script with an optional
fraction. -/
def amount? (s : List Char) : Option (Significand × List Char) :=
  let whole := s.takeWhile isDigit
  let rest := s.dropWhile isDigit
  if whole.isEmpty then none
  else
    match rest with
    | '.' :: after =>
      let fraction := after.takeWhile isDigit
      if fraction.isEmpty then some (⟨digitsValue whole, 0⟩, rest)
      else
        some (⟨digitsValue (whole ++ fraction), -(fraction.length : Int)⟩,
          after.dropWhile isDigit)
    | _ => some (⟨digitsValue whole, 0⟩, rest)

/-- The amount and the unit of a size literal. -/
def literal? (s : List Char) : Option (Significand × Nat) := do
  let (amount, rest) ← amount? (s.dropWhile isBlank)
  return (amount, ← unitFactor? (trimBlanks rest))

/-- A size beyond the highest power of ten. -/
structure TooLarge where
  deriving DecidableEq, Repr

/-- The number of bytes of an amount of some unit. -/
def product (amount : Significand) (factor : Nat) : Except TooLarge Nat :=
  let x := Significand.rounded ⟨amount.digits * factor, amount.exponent⟩
  -- zero has no first digit, whatever its power
  if x.digits ≠ 0 ∧ Significand.highestPower < x.length + x.exponent - 1 then .error ⟨⟩
  else .ok x.floor

/-- The number of bytes that a text stands for, if it is a size literal. -/
def bytes? (s : List Char) : Except TooLarge (Option Nat) :=
  match literal? s with
  | none => .ok none
  | some (amount, factor) => some <$> product amount factor

end FileSieve.ByteSize
