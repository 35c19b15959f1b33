import FileSieve.Text.Blank
import FileSieve.Text.Numeral

/-!
# Integer literals

A whole number as people type it: blanks around it, a sign, digits of any script, and single low
lines between digits.

* `ungroupDigits?_eq_self`: digits without a low line are taken as they are.
* `integerLiteral?_digits`: a short text of ASCII digits is the literal of its number.
-/

namespace FileSieve.Text

/-- Is the character a blank that may surround a number? The information separators are not. -/
def isNumberBlank (c : Char) : Bool :=
  isBlank c && !(28 ≤ c.toNat && c.toNat ≤ 31)

/-- The text without the blanks that may surround a number. -/
def trimNumberBlanks (s : List Char) : List Char :=
  ((s.dropWhile isNumberBlank).reverse.dropWhile isNumberBlank).reverse

/-- A sign, `true` for minus, and what follows it. -/
def splitSign : List Char → Bool × List Char
  | '-' :: rest => (true, rest)
  | '+' :: rest => (false, rest)
  | s => (false, s)

/-- The digits of a text in which low lines stand between digits only; `after` says whether a
digit comes right before. -/
def ungroupAfter? : Bool → List Char → Option (List Char)
  | after, [] => if after then some [] else none
  | after, c :: rest =>
    if isDigit c then (c :: ·) <$> ungroupAfter? true rest
    else if c == '_' && after then ungroupAfter? false rest
    else none

/-- The digits of a non-empty text of digits with single low lines between them. -/
def ungroupDigits? (s : List Char) : Option (List Char) :=
  ungroupAfter? false s

/-- The number that an integer literal stands for. -/
def integerLiteral? (s : List Char) : Option Int := do
  let (negative, unsigned) := splitSign (trimNumberBlanks s)
  let n ← readDigits? (← ungroupDigits? unsigned)
  return if negative then -(n : Int) else n

theorem ungroupDigits?_eq_self {s : List Char} (hne : s ≠ [])
    (h : ∀ c ∈ s, isDigit c = true) : ungroupDigits? s = some s := by
  suffices ∀ after, (after = true ∨ s ≠ []) → ungroupAfter? after s = some s from
    this false (.inr hne)
  clear hne
  induction s with
  | nil => intro after ha; simp_all [ungroupAfter?]
  | cons c rest ih =>
    intro after _
    simp [ungroupAfter?, h c List.mem_cons_self,
      ih (fun d hd => h d (List.mem_cons_of_mem _ hd)) true (.inl rfl)]

theorem trimNumberBlanks_eq_self {s : List Char} (h : ∀ c ∈ s, isNumberBlank c = false) :
    trimNumberBlanks s = s := by
  have drop : ∀ t : List Char, (∀ c ∈ t, isNumberBlank c = false) →
      t.dropWhile isNumberBlank = t := by
    intro t ht
    cases t with
    | nil => rfl
    | cons c rest => simp [List.dropWhile, ht c List.mem_cons_self]
  rw [trimNumberBlanks, drop s h, drop _ (fun c hc => h c (List.mem_reverse.1 hc)),
    List.reverse_reverse]

theorem integerLiteral?_digits {s : List Char} (hne : s ≠ [])
    (h : ∀ c ∈ s, c.isDigit = true) (hlen : s.length ≤ maxNumeralLength) :
    integerLiteral? s = some (digitsValue s : Int) := by
  have hblank : ∀ c ∈ s, isNumberBlank c = false := by
    intro c hc
    have hd := h c hc
    simp only [Char.isDigit, ge_iff_le, Bool.and_eq_true, decide_eq_true_eq] at hd
    have h1 : 48 ≤ c.toNat := hd.1
    have h2 : c.toNat ≤ 57 := hd.2
    have : isBlank c = false := by
      simp [isBlank, inRanges, blankRanges]
      omega
    simp [isNumberBlank, this]
  have hsign : splitSign s = (false, s) := by
    unfold splitSign
    split
    · exact absurd (h '-' List.mem_cons_self) (by decide)
    · exact absurd (h '+' List.mem_cons_self) (by decide)
    · rfl
  have hdig : ungroupDigits? s = some s :=
    ungroupDigits?_eq_self hne fun c hc => by simp [isDigit, digitValue_ascii (h c hc)]
  simp [integerLiteral?, trimNumberBlanks_eq_self hblank, hsign, hdig, readDigits?, hlen]

end FileSieve.Text
