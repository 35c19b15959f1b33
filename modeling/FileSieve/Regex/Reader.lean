import FileSieve.Regex.Error

/-!
# Reading a pattern

A pattern is a row of lexemes: a character, or a backslash with the character it escapes. A
`Reader` stands before one of them and knows its position. A backslash that ends the pattern is
refused as soon as the reader comes to stand before it.

* `lexemes_text`: the lexemes spell the pattern.
* `Reader.advance_length`: advancing leaves fewer lexemes.
-/

namespace FileSieve.Regex

/-! ### Lexemes -/

/-- A unit of a pattern. -/
inductive Lexeme where
  /-- A character that no backslash precedes. -/
  | plain (c : Char)
  /-- A character with the backslash before it. -/
  | escaped (c : Char)
  /-- A backslash with nothing after it. -/
  | loneBackslash
  deriving DecidableEq, Repr

namespace Lexeme

/-- How the lexeme is written. -/
def text : Lexeme → List Char
  | plain c => [c]
  | escaped c => ['\\', c]
  | loneBackslash => ['\\']

/-- The number of characters of the lexeme. -/
def width : Lexeme → Nat
  | plain _ => 1
  | escaped _ => 2
  | loneBackslash => 1

end Lexeme

/-- The lexemes of a pattern. -/
def lexemes : List Char → List Lexeme
  | [] => []
  | '\\' :: c :: rest => .escaped c :: lexemes rest
  | ['\\'] => [.loneBackslash]
  | c :: rest => .plain c :: lexemes rest

theorem lexemes_text (s : List Char) : (lexemes s).flatMap Lexeme.text = s := by
  fun_induction lexemes s <;> simp_all [Lexeme.text]

/-! ### The reader -/

/-- A place in a pattern: the lexemes ahead and the number of characters behind. -/
structure Reader where
  /-- The lexemes ahead. -/
  ahead : List Lexeme
  /-- The number of characters behind. -/
  position : Nat
  deriving DecidableEq, Repr

namespace Reader

variable {r r' : Reader}

/-- The lexeme ahead. -/
def next? (r : Reader) : Option Lexeme := r.ahead.head?

/-- A fault at the place of the reader. -/
def fault {α : Type} (r : Reader) (fault : Fault) : Except Error α :=
  .error (.malformed fault (some r.position))

/-- A fault some characters before the place of the reader. -/
def faultBack {α : Type} (r : Reader) (back : Nat) (fault : Fault) : Except Error α :=
  .error (.malformed fault (some (r.position - back)))

/-- The same place, unless the pattern's lone backslash is ahead. -/
def settle (r : Reader) : Except Error Reader :=
  if r.next? = some .loneBackslash then r.fault .loneBackslash else .ok r

/-- The place behind the next lexeme; at the end the reader stays. -/
def advance (r : Reader) : Except Error Reader :=
  match r.ahead with
  | [] => .ok r
  | l :: rest => settle ⟨rest, r.position + l.width⟩

/-- A reader at the front of a pattern. -/
def start (pattern : List Char) : Except Error Reader :=
  settle ⟨lexemes pattern, 0⟩

/-- Passes the given character if it is ahead. -/
def accept (r : Reader) (c : Char) : Except Error (Bool × Reader) :=
  if r.next? = some (.plain c) then return (true, ← r.advance) else return (false, r)

/-- The run of at most `n` characters ahead that satisfy a test. -/
def takeUpTo (test : Char → Bool) : Nat → Reader → Except Error (List Char × Reader)
  | 0, r => .ok ([], r)
  | n + 1, r =>
    match r.next? with
    | some (.plain c) =>
      if test c then do
        let (taken, r) ← takeUpTo test n (← r.advance)
        return (c :: taken, r)
      else .ok ([], r)
    | _ => .ok ([], r)

/-- The run of characters ahead that satisfy a test. -/
def takeWhile (test : Char → Bool) (r : Reader) : Except Error (List Char × Reader) :=
  takeUpTo test r.ahead.length r

theorem settle_eq (h : r.settle = .ok r') : r' = r := by
  unfold settle at h
  split at h
  · simp [fault] at h
  · exact (Except.ok.inj h).symm

theorem advance_length (h : r.advance = .ok r') (hne : r.ahead ≠ []) :
    r'.ahead.length < r.ahead.length := by
  unfold advance at h
  split at h
  · contradiction
  · rename_i l rest heq
    rw [settle_eq h, heq]
    simp

end Reader

end FileSieve.Regex
