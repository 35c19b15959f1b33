/-!
# Places in a text

A cursor stands at a place of a text and knows its line and column there.

* `next_rest`: going on leaves what follows the next character.
* `rest_skip`: going on by several characters drops them.
-/

namespace FileSieve.Yaml

/-- Does the character end a line? -/
def isBreak (c : Char) : Bool :=
  c == '\n' || c == '\x85' || c == '\u2028' || c == '\u2029'

/-- Is the character a space or a tab? -/
def isSpace (c : Char) : Bool := c == ' ' || c == '\t'

/-- Is a word over before this character, or at the end of the text? -/
def endsWord : Option Char → Bool
  | none => true
  | some c => isSpace c || isBreak c

/-- The mark of the byte order, which takes no room. -/
def byteOrderMark : Char := '\uFEFF'

/-- A place in a text. -/
structure Cursor where
  /-- What follows. -/
  rest : List Char
  /-- How many characters come before. -/
  index : Nat
  /-- How many lines come before. -/
  line : Nat
  /-- How many characters of the line come before. -/
  column : Nat
  deriving Repr

namespace Cursor

/-- The start of a text. -/
def start (s : List Char) : Cursor := ⟨s, 0, 0, 0⟩

/-- The character so many places ahead. -/
def peek (c : Cursor) (n : Nat) : Option Char := c.rest[n]?

/-- The place behind the next character. -/
def next (c : Cursor) : Cursor :=
  match c.rest with
  | [] => c
  | ch :: rest =>
    if isBreak ch then ⟨rest, c.index + 1, c.line + 1, 0⟩
    else if ch = byteOrderMark then ⟨rest, c.index + 1, c.line, c.column⟩
    else ⟨rest, c.index + 1, c.line, c.column + 1⟩

/-- The place so many characters ahead. -/
def skip : Nat → Cursor → Cursor
  | 0, c => c
  | n + 1, c => skip n c.next

/-- The place behind all next characters of a kind. -/
def skipWhile (p : Char → Bool) (c : Cursor) : Cursor :=
  c.skip (c.rest.takeWhile p).length

/-- The next character if it ends a line, and the place behind it. Most of them count the same. -/
def lineBreak? (c : Cursor) : Option (Char × Cursor) :=
  match c.peek 0 with
  | none => none
  | some ch =>
    if ch = '\u2028' ∨ ch = '\u2029' then some (ch, c.next)
    else if isBreak ch then some ('\n', c.next)
    else none

/-- Does a text of three characters come next as a word of its own? -/
def atWord (c : Cursor) (word : List Char) : Bool :=
  c.rest.take 3 = word && endsWord (c.peek 3)

/-- Is this a line that starts or ends a document? -/
def atMarker (c : Cursor) : Bool :=
  c.atWord ['-', '-', '-'] || c.atWord ['.', '.', '.']

theorem next_rest (c : Cursor) : c.next.rest = c.rest.tail := by
  obtain ⟨rest, index, line, column⟩ := c
  cases rest with
  | nil => rfl
  | cons ch rest => simp only [next]; split <;> simp; split <;> rfl

theorem rest_skip (n : Nat) (c : Cursor) : (c.skip n).rest = c.rest.drop n := by
  induction n generalizing c with
  | zero => simp [skip]
  | succ n ih => simp [skip, ih, next_rest]

end Cursor

end FileSieve.Yaml
