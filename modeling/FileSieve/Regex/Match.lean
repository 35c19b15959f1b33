import FileSieve.Regex.Parse
import FileSieve.Text.Blank
import FileSieve.Text.Letter

/-!
# Matching

A tree is matched at a point of a text by trying its ways in order of preference and handing
the point reached to what comes next; the first way that succeeds to the end counts.

* `visit_cat`, `visit_alt`: matching one after the other, and the first or else the second.
* `search_eq_true_iff`: a search succeeds when the tree matches from some point of the text.
-/

namespace FileSieve.Regex

open Text

/-! ### Characters -/

/-- Is the code point in the named class? -/
def Category.contains (flags : Flags) (c : Char) : Category → Bool
  | .digit => if flags.contains .ascii then c.isDigit else isDigit c
  | .space =>
    if flags.contains .ascii then
      [' ', '\t', '\n', '\r', '\x0b', '\x0c'].contains c
    else isBlank c
  | .word =>
    if flags.contains .ascii then c.isAlphanum || c == '_' else isWord c

/-- The code points that count as equal to the given one. -/
def equivalents (flags : Flags) (code : Nat) : List Nat :=
  if flags.contains .ignoreCase then
    if flags.contains .ascii then
      let lower := lowerAsciiCode code
      if 97 ≤ lower && lower ≤ 122 then [lower, lower - 32] else [code]
    else caseVariants code
  else [code]

/-- Is the character a member? -/
def SetItem.contains (flags : Flags) (c : Char) : SetItem → Bool
  | .code value => (equivalents flags c.toNat).contains value
  | .range low high =>
    (equivalents flags c.toNat).any fun code => low ≤ code && code ≤ high
  | .category negated name => negated != name.contains flags c

/-! ### Points -/

/-- A place in a text, with what the groups have taken so far. -/
structure Point where
  /-- The characters before, the nearest first. -/
  before : List Char
  /-- The characters after. -/
  after : List Char
  /-- The number of characters before. -/
  position : Nat
  /-- What each group took, the latest first. -/
  taken : List (Nat × List Char)
  deriving DecidableEq, Repr

namespace Point

/-- The front of a text. -/
def start (text : List Char) : Point := ⟨[], text, 0, []⟩

/-- Passes the next character if it satisfies a test. -/
def pass? (test : Char → Bool) (p : Point) : Option Point :=
  match p.after with
  | [] => none
  | c :: rest =>
    if test c then some { p with
      before := c :: p.before, after := rest, position := p.position + 1 } else none

/-- Passes the given text, as far as equality goes under the flags. -/
def passText? (flags : Flags) : List Char → Point → Option Point
  | [], p => some p
  | c :: rest, p => do
    let same d :=
      if flags.contains .ignoreCase then
        if flags.contains .ascii then lowerAsciiCode c.toNat == lowerAsciiCode d.toNat
        else lowerCode c.toNat == lowerCode d.toNat
      else c == d
    passText? flags rest (← p.pass? same)

/-- The point some characters further back. -/
def back? (n : Nat) (p : Point) : Option Point :=
  if n ≤ p.position then
    some { p with
      before := p.before.drop n
      after := (p.before.take n).reverse ++ p.after
      position := p.position - n }
  else none

/-- Notes what a group took between two points. -/
def record (index : Nat) (p q : Point) : Point :=
  { q with taken := (index, p.after.take (q.position - p.position)) :: q.taken }

/-- Does the condition hold here? -/
def satisfies (flags : Flags) (p : Point) : Anchor → Bool
  | .lineStart => p.before.isEmpty || (flags.contains .multiline && p.before.head? == some '\n')
  | .lineEnd =>
    p.after.isEmpty || p.after == ['\n'] ||
      (flags.contains .multiline && p.after.head? == some '\n')
  | .textStart => p.before.isEmpty
  | .textEnd => p.after.isEmpty
  | .wordEdge => !(p.before.isEmpty && p.after.isEmpty) && edge
  | .noWordEdge => !(p.before.isEmpty && p.after.isEmpty) && !edge
where
  /-- Does a word begin or end here? -/
  edge : Bool := p.before.head?.any word != p.after.head?.any word
  /-- Is the character one of a word? -/
  word (c : Char) : Bool := Category.word.contains flags c

end Point

/-! ### Repetition -/

/-- What is to be matched after a point, giving the point where all is matched. -/
abbrev Continuation := Point → Option Point

variable (body : Point → Continuation → Option Point)

/-- The body a fixed number of times. -/
def exactly : Nat → Point → Continuation → Option Point
  | 0, p, next => next p
  | n + 1, p, next => body p fun q => exactly n q next

/-- One repetition less, if there is a bound. -/
def oneLess (bound : Option Nat) : Option Nat := bound.map (· - 1)

/-- The body as often as possible; a repetition that takes nothing is the last. -/
def greedily : Nat → Option Nat → Point → Continuation → Option Point
  | 0, _, p, next => next p
  | fuel + 1, bound, p, next =>
    if bound = some 0 then next p
    else
      (body p fun q =>
        -- nothing was taken, so that a repetition more would not end
        if q.position = p.position then next q else greedily fuel (oneLess bound) q next)
      <|> next p

/-- The body as seldom as possible; a repetition that takes nothing is the last. -/
def lazily : Nat → Option Nat → Point → Continuation → Option Point
  | 0, _, p, next => next p
  | fuel + 1, bound, p, next =>
    next p <|>
      if bound = some 0 then none
      else body p fun q =>
        if q.position = p.position then next q else lazily fuel (oneLess bound) q next

/-- The body as often as possible, each time in its first way only. -/
def possessively : Nat → Option Nat → Point → Point
  | 0, _, p => p
  | fuel + 1, bound, p =>
    if bound = some 0 then p
    else
      match body p some with
      | none => p
      | some q =>
        if q.position = p.position then q else possessively fuel (oneLess bound) q

/-- The body a fixed number of times, each time in its first way only. -/
def firstWays : Nat → Point → Option Point
  | 0, p => some p
  | n + 1, p => do firstWays n (← body p some)

/-- The body between two counts; `text` is the length of the text. -/
def repeated (text : Nat) (greed : Greed) (least : Nat) (most : Option Nat) (p : Point)
    (next : Continuation) : Option Point :=
  let more := most.map (· - least)
  match greed with
  | .greedy => exactly body least p fun q => greedily body (text + 1) more q next
  | .lazy => exactly body least p fun q => lazily body (text + 1) more q next
  | .possessive => do next (possessively body (text + 1) more (← firstWays body least p))

/-! ### Trees -/

/-- Matches a tree from a point and goes on with what comes next. -/
def visit (widths : List Width) (flags : Flags) :
    Node → Point → Continuation → Option Point
  | .empty, p, next => next p
  | .code value, p, next => do
    next (← p.pass? fun c => (SetItem.code value).contains flags c)
  | .any, p, next => do
    next (← p.pass? fun c => flags.contains .dotAll || c != '\n')
  | .set negated items, p, next => do
    next (← p.pass? fun c => negated != items.any (·.contains flags c))
  | .anchor place, p, next => if p.satisfies flags place then next p else none
  | .cat a b, p, next => visit widths flags a p fun q => visit widths flags b q next
  | .alt a b, p, next => visit widths flags a p next <|> visit widths flags b p next
  | .group index body, p, next => visit widths flags body p fun q => next (p.record index q)
  | .scoped added removed body, p, next => visit widths (flags.within added removed) body p next
  | .repeat greed least most body, p, next =>
    repeated (visit widths flags body) p.after.length greed least most p next
  | .backref index, p, next => do
    next (← p.passText? flags (← p.taken.lookup index))
  | .look behind negated body, p, next =>
    let from? := if behind then p.back? (body.width (widthOf widths)).least else some p
    match from?.bind fun q => visit widths flags body q some, negated with
    | some q, false => next { p with taken := q.taken }
    | none, true => next p
    | _, _ => none
  | .atomic body, p, next => do next (← visit widths flags body p some)
  | .conditional index taken missed, p, next =>
    if (p.taken.lookup index).isSome then visit widths flags taken p next
    else visit widths flags missed p next

/-! ### Checks -/

/-- The widest lookbehind. -/
def widestLookbehind : Nat := Nat.pow 2 32 - 1

/-- How a repetition is named when it is forbidden. -/
def Greed.operator : Greed → String
  | .greedy => "MAX_REPEAT"
  | .lazy => "MIN_REPEAT"
  | .possessive => "POSSESSIVE_REPEAT"

/-- Refuses a lookbehind of varying width and, where it is forbidden, repetition. -/
def check (widths : List Width) (flags : Flags) : Node → Except Error Unit
  | .cat a b => do check widths flags a; check widths flags b
  | .alt a b => do check widths flags a; check widths flags b
  | .group _ body => check widths flags body
  | .scoped added removed body => check widths (flags.within added removed) body
  | .repeat greed _ _ body =>
    if flags.contains .template then .error (.malformed (.repeatForbidden greed.operator) none)
    else check widths flags body
  | .look behind _ body => do
    let width := body.width (widthOf widths)
    if behind ∧ widestLookbehind < width.least then
      .error (.malformed .lookbehindTooWide none)
    if behind ∧ !width.isFixed then .error (.malformed .lookbehindNotFixed none)
    check widths flags body
  | .atomic body => check widths flags body
  | .conditional _ taken missed => do check widths flags taken; check widths flags missed
  | _ => .ok ()

/-- Reads, translates and checks a pattern. -/
def compile (pattern : List Char) (library : Library := .plain) : Except Error Regex := do
  let regex ← parse pattern library
  if !library.canTranslate regex then .error .tooDeep
  check regex.widths regex.flags regex.tree
  return regex

/-! ### Texts -/

/-- Matches from a point and gives the point where the match ends. -/
def matchFrom (regex : Regex) (p : Point) : Option Point :=
  visit regex.widths regex.flags regex.tree p some

/-- Does the pattern match at the front of the text? -/
def matchesFront (regex : Regex) (text : List Char) : Bool :=
  (regex.matchFrom (.start text)).isSome

/-- Does the pattern match from a point with the given surroundings or from a later one? -/
def searchFrom (regex : Regex) (before : List Char) (position : Nat) : List Char → Bool
  | [] => (regex.matchFrom ⟨before, [], position, []⟩).isSome
  | c :: rest =>
    (regex.matchFrom ⟨before, c :: rest, position, []⟩).isSome ||
      searchFrom regex (c :: before) (position + 1) rest

/-- Does the pattern match somewhere in the text? -/
def search (regex : Regex) (text : List Char) : Bool :=
  regex.searchFrom [] 0 text

variable {widths : List Width} {flags : Flags} {p : Point} {next : Continuation}

theorem visit_cat {a b : Node} :
    visit widths flags (.cat a b) p next =
      visit widths flags a p fun q => visit widths flags b q next := rfl

theorem visit_alt {a b : Node} :
    visit widths flags (.alt a b) p next =
      (visit widths flags a p next <|> visit widths flags b p next) := rfl

theorem searchFrom_eq_true_iff {regex : Regex} {before : List Char} {position : Nat}
    {text : List Char} :
    regex.searchFrom before position text = true ↔
      ∃ passed rest, text = passed ++ rest ∧
        (regex.matchFrom
          ⟨passed.reverse ++ before, rest, position + passed.length, []⟩).isSome = true := by
  induction text generalizing before position with
  | nil =>
    simp only [searchFrom]
    constructor
    · intro h
      exact ⟨[], [], rfl, by simpa using h⟩
    · rintro ⟨passed, rest, h, hm⟩
      obtain ⟨rfl, rfl⟩ := List.append_eq_nil_iff.1 h.symm
      simpa using hm
  | cons c text ih =>
    simp only [searchFrom, Bool.or_eq_true, ih]
    constructor
    · rintro (h | ⟨passed, rest, rfl, hm⟩)
      · exact ⟨[], c :: text, rfl, by simpa using h⟩
      · refine ⟨c :: passed, rest, rfl, ?_⟩
        have : position + (c :: passed).length = position + 1 + passed.length := by
          simp only [List.length_cons]; omega
        rw [this]
        simpa using hm
    · rintro ⟨passed, rest, h, hm⟩
      cases passed with
      | nil =>
        left
        simp only [List.nil_append] at h
        rw [h]
        simpa using hm
      | cons d passed =>
        simp only [List.cons_append, List.cons.injEq] at h
        right
        refine ⟨passed, rest, h.2, ?_⟩
        have : position + (d :: passed).length = position + 1 + passed.length := by
          simp only [List.length_cons]; omega
        rw [this] at hm
        rw [h.1]
        simpa using hm

theorem search_eq_true_iff {regex : Regex} {text : List Char} :
    regex.search text = true ↔
      ∃ passed rest, text = passed ++ rest ∧
        (regex.matchFrom ⟨passed.reverse, rest, passed.length, []⟩).isSome = true := by
  simp [search, searchFrom_eq_true_iff]

end FileSieve.Regex
