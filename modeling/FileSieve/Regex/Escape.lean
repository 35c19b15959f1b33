import FileSieve.Regex.Basic
import FileSieve.Regex.Reader
import FileSieve.Text.LetterCase

/-!
# Escapes in a pattern

What a backslash and the character after it stand for, outside and inside a character set, and
the pattern text that stands for a given character.

* `verbatim_of_plain`: a character without a special meaning is its own pattern.
-/

namespace FileSieve.Regex

open Text

/-! ### Digits of escapes -/

/-- Is the character a hexadecimal digit? -/
def isHexDigit (c : Char) : Bool :=
  c.isDigit || ('a' ≤ c && c ≤ 'f') || ('A' ≤ c && c ≤ 'F')

/-- Is the character an octal digit? -/
def isOctalDigit (c : Char) : Bool := '0' ≤ c && c ≤ '7'

/-- The value of a digit in bases up to sixteen. -/
def digitOfBase (c : Char) : Nat :=
  if c.isDigit then c.toNat - 48
  else if 'a' ≤ c then c.toNat - 87
  else c.toNat - 55

/-- The number written by digits of a base. -/
def valueInBase (base : Nat) (digits : List Char) : Nat :=
  digits.foldl (fun value c => base * value + digitOfBase c) 0

/-- The last code point. -/
def lastCode : Nat := 0x10FFFF

/-! ### Escapes with a fixed meaning -/

/-- The code point of an escaped control character or backslash. -/
def controlEscape? (c : Char) : Option Nat :=
  [('a', 7), ('b', 8), ('f', 12), ('n', 10), ('r', 13), ('t', 9), ('v', 11), ('\\', 92)].lookup c

/-- The named class of an escape. -/
def categoryEscape? (c : Char) : Option (Bool × Category) :=
  [('d', (false, Category.digit)), ('D', (true, .digit)), ('s', (false, .space)),
    ('S', (true, .space)), ('w', (false, .word)), ('W', (true, .word))].lookup c

/-- The anchor of an escape. -/
def anchorEscape? (c : Char) : Option Anchor :=
  [('A', Anchor.textStart), ('b', .wordEdge), ('B', .noWordEdge), ('Z', .textEnd)].lookup c

/-! ### Names -/

/-- The text up to a closing character, which is passed too. -/
def nameUntil (closing : Char) (what : String) (r : Reader) :
    Except Error (List Char × Reader) := do
  let rec go : Nat → List Char → Reader → Except Error (List Char × Reader)
    | 0, name, r => stop name r
    | n + 1, name, r =>
      match r.next? with
      | none => stop name r
      | some l => do
        let r ← r.advance
        if l = .plain closing then
          if name.isEmpty then r.faultBack 1 (.missingName what) else return (name, r)
        else go n (name ++ l.text) r
  go (r.ahead.length + 1) [] r
where
  /-- The end of the pattern before the closing character. -/
  stop (name : List Char) (r : Reader) : Except Error (List Char × Reader) :=
    if name.isEmpty then r.fault (.missingName what)
    else r.faultBack name.length (.unterminatedName closing)

/-! ### Escapes with digits -/

/-- A code point of `n` hexadecimal digits after the escape `\c`. -/
def hexEscape (c : Char) (n : Nat) (r : Reader) : Except Error (Nat × Reader) := do
  let (digits, r) ← r.takeUpTo isHexDigit n
  let escape := '\\' :: c :: digits
  if digits.length ≠ n then r.faultBack escape.length (.incompleteEscape escape)
  else
    let code := valueInBase 16 digits
    if code ≤ lastCode then return (code, r)
    else r.faultBack escape.length (.badEscape escape)

/-- A character by its name. -/
def nameEscape (named? : List Char → Option Char) (r : Reader) : Except Error (Nat × Reader) := do
  let (opened, r) ← r.accept '\x7b'
  if !opened then r.fault .missingBrace
  else
    let (name, r) ← nameUntil '\x7d' "character name" r
    match named? name with
    | some c => return (c.toNat, r)
    | none => r.faultBack (name.length + 4) (.unknownCharacterName name)

/-- A code point of octal digits that were read after a backslash. -/
def octalEscape (digits : List Char) (r : Reader) : Except Error (Nat × Reader) :=
  let code := valueInBase 8 digits
  let escape := '\\' :: digits
  if code ≤ 255 then .ok (code, r) else r.faultBack escape.length (.octalTooLarge escape)

/-- An escape that is neither class nor anchor nor number: a letter after the backslash is
refused, and anything else stands for itself. -/
def otherEscape (named? : List Char → Option Char) (c : Char) (r : Reader) :
    Except Error (Nat × Reader) :=
  match c with
  | 'x' => hexEscape c 2 r
  | 'u' => hexEscape c 4 r
  | 'U' => hexEscape c 8 r
  | 'N' => nameEscape named? r
  | _ => if c.isAlpha then r.faultBack 2 (.badEscape ['\\', c]) else .ok (c.toNat, r)

/-- The escape `\c` inside a set. -/
def setEscape (named? : List Char → Option Char) (c : Char) (r : Reader) :
    Except Error (SetItem × Reader) :=
  match controlEscape? c, categoryEscape? c with
  | some code, _ => .ok (.code code, r)
  | none, some (negated, name) => .ok (.category negated name, r)
  | none, none =>
    if isOctalDigit c then do
      let (digits, r) ← r.takeUpTo isOctalDigit 2
      let (code, r) ← octalEscape (c :: digits) r
      return (.code code, r)
    else if c.isDigit then r.faultBack 2 (.badEscape ['\\', c])
    else do
      let (code, r) ← otherEscape named? c r
      return (.code code, r)

/-! ### Patterns for single characters -/

/-- The characters that get a backslash in a pattern meant verbatim. -/
def specialCharacters : List Char :=
  ['(', ')', '[', ']', '\x7b', '\x7d', '?', '*', '+', '-', '|', '^', '$', '\\', '.', '&', '~',
    '#', ' ', '\t', '\n', '\r', '\x0b', '\x0c']

/-- The pattern text that stands for the character itself. -/
def verbatim (c : Char) : List Char :=
  if specialCharacters.contains c then ['\\', c] else [c]

theorem verbatim_of_plain {c : Char} (h : c ∉ specialCharacters) : verbatim c = [c] := by
  simp [verbatim, h]

end FileSieve.Regex
