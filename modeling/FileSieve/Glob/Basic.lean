/-!
# Globs

A glob is a row of tokens. `?` takes any one character, `*` any run of characters, `**/` any
directories, a final `**` everything below, and `[...]` one character out of a class.

* `parse_plain`: a text without special characters is read as itself.
-/

namespace FileSieve.Glob

/-! ### Tokens -/

/-- A member of a character class. -/
inductive ClassItem where
  /-- One character. -/
  | single (c : Char)
  /-- The characters from the first to the second. -/
  | range (low high : Char)
  deriving DecidableEq, Repr

/-- Is the character this member or inside this range? -/
def ClassItem.contains (c : Char) : ClassItem → Bool
  | .single d => c == d
  | .range low high => low ≤ c && c ≤ high

/-- A token of a glob. -/
inductive Token where
  /-- A character that stands for itself. -/
  | char (c : Char)
  /-- `?`: any one character. -/
  | any
  /-- `*`: any run of characters. -/
  | run
  /-- `**/`: nothing, or any run of characters that ends with a separator. -/
  | directories
  /-- A final `**`: any run of characters. -/
  | rest
  /-- `[...]`: a member of a class; `[!...]`: no member of it. -/
  | oneOf (negated : Bool) (items : List ClassItem)
  deriving DecidableEq, Repr

/-- What is wrong with a glob. -/
inductive Fault where
  /-- Three or more stars in a row. -/
  | longStarRun
  /-- Two stars beside something else than separators. -/
  | starsInName
  /-- A class that is not closed, or a range whose ends are the wrong way round. -/
  | badClass
  deriving DecidableEq, Repr

/-- The wording of a fault. -/
def Fault.message : Fault → String
  | .longStarRun => "wildcards are either regular `*` or recursive `**`"
  | .starsInName => "recursive wildcards must form a single path component"
  | .badClass => "invalid range pattern"

/-! ### Reading -/

/-- Where the reader stands. -/
inductive Place where
  /-- Outside a class; at the start of a path component or not. -/
  | outside (fresh : Bool)
  /-- Inside a class that has the given members so far. -/
  | inside (negated : Bool) (items : List ClassItem)
  deriving DecidableEq, Repr

/-- Is this the last character of a class with the given members? The first member may be a
closing bracket. -/
def closes (items : List ClassItem) (c : Char) : Bool :=
  c == ']' && !items.isEmpty

/-- Reads the tokens of a text from a place on. -/
def parseFrom : Place → List Char → Except Fault (List Token)
  | .outside _, [] => .ok []
  | .outside _, '*' :: '*' :: '*' :: _ => .error .longStarRun
  | .outside fresh, '*' :: '*' :: '/' :: s =>
    if fresh then (.directories :: ·) <$> parseFrom (.outside true) s else .error .starsInName
  | .outside fresh, ['*', '*'] => if fresh then .ok [.rest] else .error .starsInName
  -- two stars in front of anything but a separator
  | .outside _, '*' :: '*' :: _ :: _ => .error .starsInName
  | .outside _, '*' :: s => (.run :: ·) <$> parseFrom (.outside false) s
  | .outside _, '?' :: s => (.any :: ·) <$> parseFrom (.outside false) s
  | .outside _, '[' :: '!' :: s => parseFrom (.inside true []) s
  | .outside _, '[' :: s => parseFrom (.inside false []) s
  | .outside _, c :: s => (.char c :: ·) <$> parseFrom (.outside (c == '/')) s
  | .inside _ _, [] => .error .badClass
  -- the last two characters cannot make a range
  | .inside negated items, [c] =>
    if closes items c then .ok [.oneOf negated items] else .error .badClass
  | .inside negated items, [c, d] =>
    if closes items c then (.oneOf negated items :: ·) <$> parseFrom (.outside false) [d]
    else parseFrom (.inside negated (items ++ [.single c])) [d]
  | .inside negated items, c :: d :: e :: s =>
    if closes items c then
      (.oneOf negated items :: ·) <$> parseFrom (.outside false) (d :: e :: s)
    -- a dash before the closing bracket is a member itself
    else if d = '-' ∧ e ≠ ']' then
      if c ≤ e then parseFrom (.inside negated (items ++ [.range c e])) s
      else .error .badClass
    else parseFrom (.inside negated (items ++ [.single c])) (d :: e :: s)

/-- The tokens of a glob. -/
def parse (s : List Char) : Except Fault (List Token) :=
  parseFrom (.outside true) s

/-! ### Plain texts -/

/-- The characters that make a text look like a glob. -/
def specials : List Char := ['*', '?', '[']

/-- Does the character make a text look like a glob? -/
def isSpecial (c : Char) : Bool := specials.contains c

/-- Does the text look like a glob? -/
def looksLike (s : List Char) : Bool :=
  s.any isSpecial

theorem parseFrom_plain {fresh : Bool} {c : Char} {s : List Char} (h : isSpecial c = false) :
    parseFrom (.outside fresh) (c :: s) =
      (.char c :: ·) <$> parseFrom (.outside (c == '/')) s := by
  simp only [isSpecial, specials, List.contains_cons, List.contains_nil, Bool.or_false,
    Bool.or_eq_false_iff, beq_eq_false_iff_ne, ne_eq] at h
  obtain ⟨hstar, hany, hclass⟩ := h
  rw [parseFrom.eq_def]
  split <;> simp_all

theorem parse_plain {s : List Char} (h : looksLike s = false) :
    parse s = .ok (s.map .char) := by
  suffices ∀ fresh, parseFrom (.outside fresh) s = .ok (s.map .char) from this true
  induction s with
  | nil => intro; rfl
  | cons c s ih =>
    intro fresh
    simp only [looksLike, List.any_cons, Bool.or_eq_false_iff] at h
    rw [parseFrom_plain h.1, ih h.2]
    rfl

end FileSieve.Glob
